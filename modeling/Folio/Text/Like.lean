import Folio.Text.Basic

namespace Folio.Text

inductive LikeRun where
  | done (ok : Bool)
  | star (pattern text : List Char)
  | retry

/-- A literal run: pattern and text walk together while the pattern character is `_` or equal
to the text character. -/
def likeRun : List Char → List Char → LikeRun
  | p, [] => .done (p.all (· == '%'))
  | c :: p, d :: t =>
    if c == '_' || c == d then likeRun p t
    else if c == '%' then .star p (d :: t)
    else .retry
  | [], _ :: _ => .retry

theorem likeRun_star_length {p t q u : List Char} (h : likeRun p t = .star q u) :
    q.length + u.length < p.length + t.length := by
  induction p, t using likeRun.induct with
  | case1 p => simp [likeRun] at h
  | case2 c p d t hc ih =>
    rw [likeRun, if_pos hc] at h
    have := ih h
    simp only [List.length_cons]
    omega
  | case3 c p d t hc hp =>
    rw [likeRun, if_neg hc, if_pos hp] at h
    cases h
    simp
  | case4 c p d t hc hp =>
    rw [likeRun, if_neg hc, if_neg hp] at h
    cases h
  | case5 d t => simp [likeRun] at h

/-- The greedy matcher once it has passed a `%`: `p` is the pattern after that `%` and `t` the
text it starts to stand for. When a run fails, the `%` takes one more character. -/
def likeAfterStar (p t : List Char) : Bool :=
  match h : likeRun p t with
  | .done ok => ok
  | .star q u =>
    have := likeRun_star_length h
    likeAfterStar q u
  | .retry =>
    match t with
    | [] => false
    | _ :: rest => likeAfterStar p rest
termination_by p.length + t.length
decreasing_by
  · omega
  · simp only [List.length_cons]; omega

/-- The greedy matcher of the in-memory store, on pattern and text. -/
def likeMatch : List Char → List Char → Bool
  | p, [] => p.all (· == '%')
  | c :: p, d :: t =>
    if c == '_' || c == d then likeMatch p t
    else if c == '%' then likeAfterStar p (d :: t)
    else false
  | [], _ :: _ => false

/-- Whether a text is in the language of a pattern, ASCII letters compared without case. -/
def likeText : List Char → List Char → Bool
  | [], t => t.isEmpty
  | '%' :: p, t =>
    likeText p t ||
      match t with
      | [] => false
      | _ :: rest => likeText ('%' :: p) rest
  | '_' :: p, _ :: t => likeText p t
  | c :: p, d :: t => c.toLower == d.toLower && likeText p t
  | _ :: _, [] => false
termination_by p t => p.length + t.length

theorem likeMatch_nil_text (p : List Char) : likeMatch p [] = p.all (· == '%') := by
  cases p <;> rfl

end Folio.Text
