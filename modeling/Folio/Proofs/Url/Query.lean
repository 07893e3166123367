import Folio.Url.Parse
import Folio.Proofs.Url.Form
import Mathlib

namespace Folio.Url

/-- Characters in which neither `?` nor `#` occurs, so that they end no path and start no
query or fragment. -/
def Plain (cs : List Char) : Prop := ∀ c ∈ cs, c ≠ '?' ∧ c ≠ '#'

instance (cs : List Char) : Decidable (Plain cs) :=
  inferInstanceAs (Decidable (∀ c ∈ cs, c ≠ '?' ∧ c ≠ '#'))

@[simp] theorem plain_nil : Plain [] := by simp [Plain]

@[simp] theorem plain_cons {c : Char} {cs : List Char} :
    Plain (c :: cs) ↔ (c ≠ '?' ∧ c ≠ '#') ∧ Plain cs := by
  simp [Plain]

@[simp] theorem plain_append {as bs : List Char} : Plain (as ++ bs) ↔ Plain as ∧ Plain bs := by
  simp only [Plain, List.mem_append]
  exact ⟨fun h => ⟨fun c hc => h c (.inl hc), fun c hc => h c (.inr hc)⟩,
    fun h c hc => hc.elim (h.1 c) (h.2 c)⟩

theorem Plain.sublist {as bs : List Char} (h : Plain bs) (hs : as.Sublist bs) : Plain as :=
  fun c hc => h c (hs.subset hc)

theorem plain_take {n : Nat} {cs : List Char} (h : Plain cs) : Plain (cs.take n) :=
  h.sublist (List.take_sublist n cs)

theorem plain_takeWhile {p : Char → Bool} {cs : List Char} (h : Plain cs) :
    Plain (cs.takeWhile p) := h.sublist (List.takeWhile_sublist p)

theorem plain_dropWhile {p : Char → Bool} {cs : List Char} (h : Plain cs) :
    Plain (cs.dropWhile p) := h.sublist (List.dropWhile_sublist p)

theorem plain_takeWhile_delims {cs : List Char} {p : Char → Bool}
    (hp : ∀ c, c = '?' ∨ c = '#' → p c = false) : Plain (cs.takeWhile p) := by
  intro c hc
  have := List.mem_takeWhile_imp hc
  constructor <;> rintro rfl <;> simp [hp] at this

theorem plain_hexUpper : ∀ d < 16, hexUpper d ≠ '?' ∧ hexUpper d ≠ '#' := by decide

theorem plain_percentByte {b : Nat} (h : b < 256) : Plain (percentByte b) := by
  simp only [percentByte, plain_cons, plain_nil, and_true]
  exact ⟨by decide, plain_hexUpper _ (by omega), plain_hexUpper _ (by omega)⟩

theorem mem_encode {s : EncodeSet} {cs : List Char} {x : Char} (h : x ∈ encode s cs) :
    (x ∈ cs ∧ s.escapes x.toNat = false) ∨ x = '%' ∨ ∃ d < 16, x = hexUpper d := by
  obtain ⟨c, hc, hx⟩ := List.mem_flatMap.mp h
  obtain ⟨b, hb, hx⟩ := List.mem_flatMap.mp hx
  have hb256 := Text.utf8Bytes_lt c b hb
  split at hx
  · simp only [percentByte, List.mem_cons, List.not_mem_nil, or_false] at hx
    rcases hx with rfl | rfl | rfl
    · exact .inr (.inl rfl)
    · exact .inr (.inr ⟨_, by omega, rfl⟩)
    · exact .inr (.inr ⟨_, by omega, rfl⟩)
  · next he =>
    rw [List.mem_singleton] at hx
    subst hx
    -- an unescaped byte is below 0x7F, so it is the whole of an ASCII character
    have hlt : b < 0x80 := by simp [EncodeSet.escapes] at he; omega
    have hascii : c.toNat < 0x80 := by
      by_contra hc'
      unfold Text.utf8Bytes at hb
      simp only [hc', if_false] at hb
      split_ifs at hb <;> simp at hb <;> omega
    rw [Text.utf8Bytes_ascii hascii, List.mem_singleton] at hb
    subst hb
    rw [Char.ofNat_toNat]
    exact .inl ⟨hc, by simpa using he⟩

theorem plain_encode {s : EncodeSet} {cs : List Char}
    (h : ∀ c ∈ cs, c = '?' ∨ c = '#' → s.escapes c.toNat) : Plain (encode s cs) := by
  intro x hx
  rcases mem_encode hx with ⟨hc, he⟩ | rfl | ⟨d, hd, rfl⟩
  · constructor <;> rintro rfl
    · rw [h _ hc (.inl rfl)] at he; exact Bool.noConfusion he
    · rw [h _ hc (.inr rfl)] at he; exact Bool.noConfusion he
  · decide
  · exact plain_hexUpper d hd

theorem plain_encode_of_plain {s : EncodeSet} {cs : List Char} (h : Plain cs) :
    Plain (encode s cs) :=
  plain_encode fun c hc hq => absurd hq (by have := h c hc; tauto)

theorem pathSet_escapes : pathSet.escapes '?'.toNat ∧ pathSet.escapes '#'.toNat := by decide

theorem userinfoSet_escapes : userinfoSet.escapes '?'.toNat ∧ userinfoSet.escapes '#'.toNat := by
  decide

theorem plain_encode_escaping {s : EncodeSet} (hs : s.escapes '?'.toNat ∧ s.escapes '#'.toNat)
    (cs : List Char) : Plain (encode s cs) :=
  plain_encode fun _ _ hq => by rcases hq with rfl | rfl; exacts [hs.1, hs.2]

theorem hash_not_mem_encode_query {s : EncodeSet} (hs : s.escapes '#'.toNat) (cs : List Char) :
    '#' ∉ encode s cs := by
  intro h
  rcases mem_encode h with ⟨-, he⟩ | h | ⟨d, hd, h⟩
  · rw [hs] at he; exact Bool.noConfusion he
  · exact absurd h (by decide)
  · exact (plain_hexUpper d hd).2 h.symm

theorem mem_toDigitsCore {b fuel n : Nat} {cs : List Char} {c : Char} (hb : 0 < b)
    (h : c ∈ Nat.toDigitsCore b fuel n cs) : c ∈ cs ∨ ∃ d < b, c = d.digitChar := by
  induction fuel generalizing n cs with
  | zero => rw [Nat.toDigitsCore] at h; exact .inl h
  | succ fuel ih =>
    rw [Nat.toDigitsCore] at h
    have hd : ∃ d < b, (n % b).digitChar = d.digitChar := ⟨n % b, Nat.mod_lt _ hb, rfl⟩
    split at h
    · rcases List.mem_cons.mp h with rfl | e
      · exact .inr hd
      · exact .inl e
    · rcases ih h with e | e
      · rcases List.mem_cons.mp e with rfl | e
        · exact .inr hd
        · exact .inl e
      · exact .inr e

theorem mem_toDigits {b n : Nat} {c : Char} (hb : 0 < b) (h : c ∈ Nat.toDigits b n) :
    ∃ d < b, c = d.digitChar := by
  rcases mem_toDigitsCore hb h with h | h
  · simp at h
  · exact h

theorem plain_digitChar : ∀ d < 16, d.digitChar ≠ '?' ∧ d.digitChar ≠ '#' := by decide

theorem plain_toDigits {b n : Nat} (hb : 0 < b) (hb16 : b ≤ 16) : Plain (Nat.toDigits b n) := by
  intro c hc
  obtain ⟨d, hd, rfl⟩ := mem_toDigits hb hc
  exact plain_digitChar d (by omega)

theorem plain_toString_nat (n : Nat) : Plain (toString n).toList := by
  rw [Nat.toString_eq_ofList_toDigits, String.toList_ofList]
  exact plain_toDigits (by omega) (by omega)

theorem plain_intercalate {sep : List Char} {L : List (List Char)} (hs : Plain sep)
    (hL : ∀ l ∈ L, Plain l) : Plain (sep.intercalate L) := by
  induction L with
  | nil => simp
  | cons l L ih =>
    cases L with
    | nil => simpa using hL l (by simp)
    | cons m L =>
      rw [List.intercalate_cons_cons]
      simp only [List.mem_cons, forall_eq_or_imp] at hL ih
      simp only [plain_append]
      exact ⟨⟨hL.1, hs⟩, ih ⟨hL.2.1, hL.2.2⟩⟩

theorem plain_stringIntercalate {sep : String} {L : List String} (hs : Plain sep.toList)
    (hL : ∀ l ∈ L, Plain l.toList) : Plain (sep.intercalate L).toList := by
  rw [String.toList_intercalate]
  exact plain_intercalate hs (by simpa using hL)

theorem plain_showIpv4 (a : Nat) : Plain (showIpv4 a).toList := by
  unfold showIpv4
  refine plain_stringIntercalate (by simp [Plain]) fun l hl => ?_
  simp only [List.mem_cons, List.not_mem_nil, or_false] at hl
  rcases hl with rfl | rfl | rfl | rfl <;> exact plain_toString_nat _

theorem plain_showIpv6 (ps : List Nat) : Plain (showIpv6 ps).toList := by
  have hhex : ∀ xs : List Nat, ∀ l ∈ xs.map (fun x => String.ofList (Nat.toDigits 16 x)),
      Plain l.toList := fun xs l hl => by
    obtain ⟨x, -, rfl⟩ := List.mem_map.mp hl
    rw [String.toList_ofList]; exact plain_toDigits (by omega) (by omega)
  unfold showIpv6
  split
  · exact plain_stringIntercalate (by simp [Plain]) (hhex _)
  · simp only [String.toList_append, plain_append]
    exact ⟨⟨plain_stringIntercalate (by simp [Plain]) (hhex _), by simp [Plain]⟩,
      plain_stringIntercalate (by simp [Plain]) (hhex _)⟩

theorem plain_digitChar36 : ∀ d < 36, Punycode.digitChar d ≠ '?' ∧ Punycode.digitChar d ≠ '#' := by
  decide

theorem mem_encodeInt {q k bias : Nat} {c : Char} (h : c ∈ Punycode.encodeInt q k bias) :
    ∃ d < 36, c = Punycode.digitChar d := by
  induction q using Nat.strong_induction_on generalizing k with
  | _ q ih =>
    have ht := Punycode.threshold_pos k bias
    rw [Punycode.encodeInt] at h
    split at h
    · rw [List.mem_singleton] at h; exact ⟨q, by omega, h⟩
    · next hq =>
      rcases List.mem_cons.mp h with h | h
      · have := Nat.mod_lt (q - Punycode.threshold k bias)
          (show 0 < 36 - Punycode.threshold k bias by omega)
        exact ⟨_, by omega, h⟩
      · refine ih _ ?_ h
        apply Nat.div_lt_of_lt_mul
        calc q - Punycode.threshold k bias < q := by omega
          _ ≤ (36 - Punycode.threshold k bias) * q := Nat.le_mul_of_pos_left q (by omega)

theorem foldl_invariant {α β : Type} (P : β → Prop) {f : β → α → β}
    (hf : ∀ b a, P b → P (f b a)) : ∀ (l : List α) (b : β), P b → P (l.foldl f b)
  | [], _, hb => hb
  | a :: l, b, hb => foldl_invariant P hf l (f b a) (hf b a hb)

theorem plain_encodeRounds : ∀ (fuel : Nat) (input : List Nat) (n delta bias h b : Nat),
    Plain (Punycode.encodeRounds fuel input n delta bias h b)
  | 0, _, _, _, _, _, _ => by simp [Punycode.encodeRounds]
  | fuel + 1, input, n, delta, bias, h, b => by
    rw [Punycode.encodeRounds]
    split
    · simp
    · dsimp only
      simp only [plain_append]
      refine ⟨?_, plain_encodeRounds fuel _ _ _ _ _ _⟩
      -- every round only appends digits to its output
      refine foldl_invariant (fun st : List Char × Nat × Nat × Nat => Plain st.1) ?_ input _
        (by simp)
      intro st c (hout : Plain st.1)
      split_ifs
      · exact hout
      · simp only [plain_append]
        refine ⟨hout, fun x hx => ?_⟩
        obtain ⟨d, hd, rfl⟩ := mem_encodeInt hx
        exact plain_digitChar36 d hd
      · exact hout

theorem plain_punycode {l : List Char} (hl : Plain l) :
    Plain (Punycode.encode (l.map Char.toNat)).toList := by
  unfold Punycode.encode
  simp only [String.toList_ofList, plain_append]
  refine ⟨?_, plain_encodeRounds _ _ _ _ _ _ _⟩
  have hbasic : Plain (((l.map Char.toNat).filter (· < 128)).map Char.ofNat) := by
    intro c hc
    simp only [List.mem_map, List.mem_filter] at hc
    obtain ⟨_, ⟨⟨x, hx, rfl⟩, -⟩, rfl⟩ := hc
    rw [Char.ofNat_toNat]; exact hl x hx
  split
  · simp only [plain_append]; exact ⟨hbasic, by simp [Plain]⟩
  · simp

theorem Plain.of_splitOnChar {sep : Char} {cs : List Char} (h : Plain cs) :
    ∀ p ∈ Text.splitOnChar sep cs, Plain p := by
  induction cs with
  | nil => simp [Text.splitOnChar]
  | cons c cs ih =>
    simp only [plain_cons] at h
    intro p hp
    unfold Text.splitOnChar at hp
    split at hp
    · rcases List.mem_cons.mp hp with rfl | hp
      · simp
      · exact ih h.2 p hp
    · split at hp
      · next he => exact absurd he (Text.splitOnChar_ne_nil sep cs)
      · next q qs he =>
        rcases List.mem_cons.mp hp with rfl | hp
        · simp only [plain_cons]; exact ⟨h.1, ih h.2 q (by simp [he])⟩
        · exact ih h.2 p (by simp [he, hp])

theorem mem_of_mapM_some {α β : Type} {f : α → Option β} :
    ∀ {l : List α} {r : List β}, l.mapM f = some r → ∀ x ∈ r, ∃ p ∈ l, f p = some x
  | [], r, h, x, hx => by simp at h; subst h; simp at hx
  | a :: l, r, h, x, hx => by
    rw [List.mapM_cons] at h
    cases hb : f a with
    | none => simp [hb] at h
    | some b =>
      cases hbs : l.mapM f with
      | none => simp [hb, hbs] at h
      | some bs =>
        simp only [hb, hbs] at h
        cases h
        rcases List.mem_cons.mp hx with rfl | hx
        · exact ⟨a, by simp, hb⟩
        · obtain ⟨p, hp, hpx⟩ := mem_of_mapM_some hbs x hx
          exact ⟨p, by simp [hp], hpx⟩

theorem plain_labelToAscii {l : List Char} {x : String} (hl : Plain l)
    (h : labelToAscii l = some x) : Plain x.toList := by
  unfold labelToAscii at h
  split at h
  · split at h
    · cases h; simpa using hl
    · cases h
  · cases h
    simp only [String.toList_append, plain_append]
    exact ⟨by simp [Plain], plain_punycode hl⟩

theorem plain_domainToAscii {s d : String} (h : domainToAscii s = some d) : Plain d.toList := by
  unfold domainToAscii at h
  simp only [bind, Option.bind] at h
  split at h
  · cases h
  · next hf =>
    have hm : Plain (s.toList.flatMap mapDomainChar) := fun c hc => by
      have := List.any_eq_false.mp (by simpa using hf) c hc
      constructor <;> rintro rfl <;> simp [isForbiddenDomainChar] at this
    split at h
    · cases h
    · next labels hls =>
      cases h
      refine plain_stringIntercalate (by simp [Plain]) fun x hx => ?_
      obtain ⟨p, hp, hpx⟩ := mem_of_mapM_some hls x hx
      exact plain_labelToAscii (hm.of_splitOnChar p hp) hpx

theorem plain_ipv6Host (ps : List Nat) : Plain (Host.ipv6 ps).serialize.toList := by
  simp only [Host.serialize, String.toList_append, plain_append]
  exact ⟨⟨by simp [Plain], plain_showIpv6 _⟩, by simp [Plain]⟩

theorem bracketed_host {t : String} {h : Host}
    (hp : (match parseIpv6? t with
        | some ps => Except.ok (Host.ipv6 ps)
        | none => Except.error ParseError.invalidIpv6) = .ok h) :
    ∃ ps, h = .ipv6 ps := by
  split at hp
  · cases hp; exact ⟨_, rfl⟩
  · cases hp

theorem plain_parseSpecialHost {s : String} {h : Host} (hp : parseSpecialHost s = .ok h) :
    Plain h.serialize.toList := by
  unfold parseSpecialHost at hp
  dsimp only at hp
  split_ifs at hp with hb hl
  · obtain ⟨ps, rfl⟩ := bracketed_host hp
    exact plain_ipv6Host ps
  · cases hd : domainToAscii (decodeText s) with
    | none => simp [hd] at hp
    | some d =>
      simp only [hd] at hp
      split_ifs at hp
      · split at hp
        · cases hp; exact plain_showIpv4 _
        · cases hp
      · cases hp; exact plain_domainToAscii hd

theorem plain_parsePlainHost {s : String} {h : Host} (hp : parsePlainHost s = .ok h) :
    Plain h.serialize.toList := by
  unfold parsePlainHost at hp
  dsimp only at hp
  split_ifs at hp with hb hl hf
  · obtain ⟨ps, rfl⟩ := bracketed_host hp
    exact plain_ipv6Host ps
  · cases hp
    rw [Host.serialize, String.toList_ofList]
    -- the forbidden host characters include both delimiters
    refine plain_encode_of_plain fun c hc => ?_
    have := List.any_eq_false.mp (by simpa using hf) c hc
    constructor <;> rintro rfl <;> simp [isForbiddenHostChar] at this

theorem toLower_ne {c d : Char} (hd : d.isAlpha = false) (h : c ≠ d) : c.toLower ≠ d := by
  by_cases hu : c.isUpper
  · intro he
    have : c.toLower.isAlpha = true := by
      rw [Char.isAlpha_toLower_eq_isAlpha]; simp [Char.isAlpha, hu]
    rw [he, hd] at this
    exact Bool.noConfusion this
  · rwa [Char.toLower_eq_of_not_isUpper hu]

theorem plain_splitScheme {cs rest : List Char} {scheme : String}
    (h : splitScheme cs = some (scheme, rest)) : Plain scheme.toList := by
  unfold splitScheme at h
  split at h
  · cases h
  · next c cs =>
    split at h
    · next ha =>
      split at h
      · cases h
        rw [String.toList_ofList]
        intro x hx
        obtain ⟨y, hy, rfl⟩ := List.mem_map.mp hx
        have hy' : y ≠ '?' ∧ y ≠ '#' := by
          rcases List.mem_cons.mp hy with rfl | hy
          · constructor <;> rintro rfl <;> simp at ha
          · have := List.mem_takeWhile_imp hy
            constructor <;> rintro rfl <;> simp [isSchemeChar] at this
        exact ⟨toLower_ne (by decide) hy'.1, toLower_ne (by decide) hy'.2⟩
      · cases h
    · cases h

def headText (u : Url) : String := ({ u with query := none, fragment := none } : Url).serialize

theorem serialize_toList (u : Url) :
    u.serialize.toList = (headText u).toList ++ (u.query.elim [] fun q => '?' :: q.toList) ++
      (u.fragment.elim [] fun f => '#' :: f.toList) := by
  rcases u with ⟨scheme, username, password, host, port, path, query, fragment⟩
  cases query <;> cases fragment <;> simp [headText, Url.serialize]

/-- The query of a URL text: what follows its first `?`, up to the first `#`. -/
def queryOfText (s : String) : Option String :=
  match (s.toList.takeWhile (· ≠ '#')).dropWhile (· ≠ '?') with
  | '?' :: q => some (String.ofList q)
  | _ => none

/-- A URL whose scheme, userinfo, host and path hold neither `?` nor `#`, and whose query holds
no `#`: its text shows where its query starts and ends. -/
structure Clean (u : Url) : Prop where
  scheme : Plain u.scheme.toList
  username : Plain u.username.toList
  password : Plain u.password.toList
  host : ∀ h, u.host = some h → Plain h.serialize.toList
  path : Plain u.path.serialize.toList
  query : ∀ q, u.query = some q → '#' ∉ q.toList

theorem Clean.headText {u : Url} (h : Clean u) : Plain (headText u).toList := by
  simp only [Url.headText, Url.serialize, String.toList_append, plain_append]
  refine ⟨⟨⟨⟨⟨h.scheme, by simp [Plain]⟩, ?_⟩, h.path⟩, by simp [Plain]⟩, by simp [Plain]⟩
  split
  · next hst hh =>
    simp only [String.toList_append, plain_append]
    refine ⟨⟨⟨by simp [Plain], ?_⟩, h.host hst hh⟩, ?_⟩
    · split_ifs
      · simp
      · simp only [String.toList_append, plain_append]
        exact ⟨⟨h.username, by simp [Plain]⟩, by simp [Plain]⟩
      · simp only [String.toList_append, plain_append]
        exact ⟨⟨h.username, by simp [Plain], h.password⟩, by simp [Plain]⟩
    · split
      · simp only [String.toList_append, plain_append]
        exact ⟨by simp [Plain], plain_toString_nat _⟩
      · simp
  · split <;> simp [Plain]

theorem queryOfText_serialize {u : Url} {q : String} (hc : Clean u) (hq : u.query = some q) :
    queryOfText u.serialize = some q := by
  have hhead := hc.headText
  have hhash := hc.query q hq
  -- the fragment, if any, starts with the first number sign of the text
  have hfrag : (u.fragment.elim [] fun f => '#' :: f.toList).takeWhile (· ≠ '#') = [] := by
    cases u.fragment <;> simp
  have htake : ((headText u).toList ++ '?' :: q.toList ++
      u.fragment.elim [] fun f => '#' :: f.toList).takeWhile (· ≠ '#') =
      (headText u).toList ++ '?' :: q.toList := by
    rw [List.takeWhile_append_of_pos, hfrag, List.append_nil]
    intro c hc
    simp only [List.mem_append, List.mem_cons] at hc
    rcases hc with hc | rfl | hc
    · simpa using (hhead c hc).2
    · simp
    · simp only [ne_eq, decide_eq_true_eq]; rintro rfl; exact hhash hc
  unfold queryOfText
  rw [serialize_toList, hq, Option.elim, htake, List.dropWhile_append_of_pos]
  · simp
  · intro c hc; simpa using (hhead c hc).1

theorem querySets_escape (special : Bool) :
    (if special then specialQuerySet else querySet).escapes '#'.toNat := by
  cases special <;> decide

theorem Clean.withTail {u : Url} (h : Clean u) (special : Bool) (cs : List Char) :
    Clean (withTail u special cs) := by
  have hq : ∀ (rest : List Char) (q : String),
      some (String.ofList (encode (if special then specialQuerySet else querySet)
        (rest.takeWhile (· ≠ '#')))) = some q → '#' ∉ q.toList := by
    rintro rest q ⟨⟩
    rw [String.toList_ofList]
    exact hash_not_mem_encode_query (querySets_escape special) _
  unfold Url.withTail
  split
  · dsimp only
    split
    · exact ⟨h.scheme, h.username, h.password, h.host, h.path, hq _⟩
    · exact ⟨h.scheme, h.username, h.password, h.host, h.path, hq _⟩
  · exact ⟨h.scheme, h.username, h.password, h.host, h.path, h.query⟩
  · exact h

theorem mem_resolveStep {file last : Bool} {acc : List String} {s x : String}
    (h : x ∈ resolveStep file acc s last) :
    x ∈ acc ∨ x = "" ∨ x = s ∨ x = String.ofList (s.toList.take 1 ++ [':']) := by
  unfold resolveStep at h
  split_ifs at h <;> grind [List.mem_of_mem_dropLast]

theorem plain_resolveStep {file last : Bool} {acc : List String} {s : String}
    (hacc : ∀ x ∈ acc, Plain x.toList) (hs : Plain s.toList) :
    ∀ x ∈ resolveStep file acc s last, Plain x.toList := by
  intro x hx
  rcases mem_resolveStep hx with hx | rfl | rfl | rfl
  · exact hacc x hx
  · simp
  · exact hs
  · rw [String.toList_ofList, plain_append]
    exact ⟨plain_take hs, by simp [Plain]⟩

theorem plain_resolveSegments {file : Bool} :
    ∀ {acc pieces : List String}, (∀ x ∈ acc, Plain x.toList) → (∀ x ∈ pieces, Plain x.toList) →
      ∀ x ∈ resolveSegments file acc pieces, Plain x.toList
  | acc, [], hacc, _ => by rw [resolveSegments]; exact hacc
  | acc, [s], hacc, hs => by
    rw [resolveSegments]
    exact plain_resolveStep hacc (hs s (by simp))
  | acc, s :: t :: rest, hacc, hs => by
    rw [resolveSegments]
    · exact plain_resolveSegments (plain_resolveStep hacc (hs s (by simp)))
        fun x hx => hs x (List.mem_cons_of_mem s hx)
    · simp

theorem plain_segments {parts : List String} (h : ∀ x ∈ parts, Plain x.toList) :
    Plain (Path.segments parts).serialize.toList := by
  rw [Path.serialize, String.toList_join]
  intro c hc
  obtain ⟨x, hx, hc⟩ := List.mem_flatMap.mp hc
  obtain ⟨p, hp, rfl⟩ := List.mem_map.mp hx
  rw [String.toList_append] at hc
  rcases List.mem_append.mp hc with hc | hc
  · simp at hc; subst hc; decide
  · exact h p hp c hc

theorem Clean.withPath {u : Url} (h : Clean u) (special : Bool) (cs : List Char) :
    Clean (withPath u special cs) := by
  unfold Url.withPath
  dsimp only
  refine Clean.withTail ?_ _ _
  refine ⟨h.scheme, h.username, h.password, h.host, ?_, h.query⟩
  refine plain_segments (plain_resolveSegments (by simp) fun x hx => ?_)
  obtain ⟨p, -, rfl⟩ := List.mem_map.mp hx
  rw [String.toList_ofList]
  exact plain_encode_escaping pathSet_escapes p

theorem Clean.withPathStart {u : Url} (h : Clean u) (special : Bool) (cs : List Char) :
    Clean (withPathStart u special cs) := by
  unfold Url.withPathStart
  split
  · split
    · split
      · exact h.withPath _ _
      · exact h.withPath _ _
    · exact h.withPath _ _
  · split
    · exact h
    · exact h.withPath _ _
    · split
      · exact h.withTail _ _
      · exact h.withPath _ _

theorem plain_splitUserinfo (i : List Char) :
    Plain (splitUserinfo i).1.toList ∧ Plain (splitUserinfo i).2.toList := by
  simp only [splitUserinfo, String.toList_ofList]
  exact ⟨plain_encode_escaping userinfoSet_escapes _, plain_encode_escaping userinfoSet_escapes _⟩

theorem Clean.withAuthority {u u' : Url} (h : Clean u) {special : Bool} {cs : List Char}
    (hw : withAuthority u special cs = .ok u') : Clean u' := by
  -- the URL the path starts from: the userinfo kept or read from the text, and a parsed host
  have hhost : ∀ {user pass : String} {x : Host} {port : Option Nat} {rest : List Char},
      Plain user.toList → Plain pass.toList → Plain x.serialize.toList →
      Clean (Url.withPathStart
        { u with username := user, password := pass, host := some x, port := port } special rest) := by
    intro user pass x port rest hu hp hx
    refine Clean.withPathStart ?_ _ _
    exact ⟨h.scheme, hu, hp, by rintro _ ⟨⟩; exact hx, h.path, h.query⟩
  unfold Url.withAuthority at hw
  -- every way through the authority that does not fail ends in the path start; a special
  -- scheme reads its host with the special parser, any other with the plain one, and the
  -- scheme is split first so that each way names its parser
  cases special <;>
    simp only [bind, Except.bind, pure, Except.pure, throw, throwThe, MonadExceptOf.throw,
      Bool.false_eq_true, ↓reduceIte, Bool.false_and, Bool.true_and] at hw
  case false =>
    repeat' split at hw
    all_goals try simp at hw
    all_goals
      subst hw
      exact hhost (by simp only [h.username, (plain_splitUserinfo _).1])
        (by simp only [h.password, (plain_splitUserinfo _).2]) (plain_parsePlainHost ‹_›)
  case true =>
    repeat' split at hw
    all_goals try simp at hw
    all_goals
      subst hw
      exact hhost (by simp only [h.username, (plain_splitUserinfo _).1])
        (by simp only [h.password, (plain_splitUserinfo _).2]) (plain_parseSpecialHost ‹_›)

theorem Clean.withFile {u u' : Url} (h : Clean u) {cs : List Char}
    (hw : withFile u cs = .ok u') : Clean u' := by
  have hhost : ∀ {x : Host}, Plain x.serialize.toList → Clean { u with host := some x } :=
    fun hx => ⟨h.scheme, h.username, h.password, by rintro _ ⟨⟩; exact hx, h.path, h.query⟩
  have hempty : Clean { u with host := some .empty } := hhost (by simp [Host.serialize])
  unfold Url.withFile at hw
  simp only [bind, Except.bind, pure, Except.pure] at hw
  -- a file URL takes the empty host unless a host is written out before its path
  repeat' split at hw
  all_goals try simp at hw
  all_goals subst hw
  all_goals first
    | exact hempty.withPath _ _
    | exact hempty.withPathStart _ _
    | exact (hhost (plain_parseSpecialHost ‹_›)).withPathStart _ _

theorem clean_parse {s : String} {u : Url} (hp : parse s = .ok u) : Clean u := by
  unfold parse at hp
  split at hp
  · cases hp
  · next scheme rest hs =>
    have h : Clean { scheme } :=
      ⟨plain_splitScheme hs, by simp, by simp, by simp, by simp [Path.serialize], by simp⟩
    dsimp only at hp
    split_ifs at hp
    · exact h.withFile hp
    · exact h.withAuthority hp
    · split at hp
      · exact h.withAuthority hp
      · cases hp; exact h.withPath _ _
      · cases hp
        refine Clean.withTail ?_ _ _
        refine ⟨h.scheme, h.username, h.password, h.host, ?_, h.query⟩
        rw [Path.serialize, String.toList_ofList]
        exact plain_encode_of_plain (plain_takeWhile_delims fun c hc => by
          rcases hc with rfl | rfl <;> decide)

theorem Clean.appendPairs {u : Url} (h : Clean u) (ps : List (String × String)) :
    Clean (Form.appendPairs u ps) := by
  refine ⟨h.scheme, h.username, h.password, h.host, h.path, ?_⟩
  rintro q ⟨⟩
  -- the pairs are written in the form encoding, which keeps no number sign
  have hpair : ∀ k v, '#' ∉ (Form.pair k v).toList := fun k v => by
    simp only [Form.pair, String.toList_append, List.mem_append, not_or]
    exact ⟨⟨Form.not_mem_serialize (by decide) (by decide) (by decide) k, by simp⟩,
      Form.not_mem_serialize (by decide) (by decide) (by decide) v⟩
  refine foldl_invariant (fun q : String => '#' ∉ q.toList) ?_ ps _ ?_
  · rintro q ⟨k, v⟩ (hq : '#' ∉ q.toList)
    dsimp only
    split_ifs <;> simp [hq, hpair]
  · cases hq : u.query with
    | none => simp
    | some q => exact h.query q hq

/-- Reading back the pairs of a link: the pairs appended to a parsed URL come after those of its
own query. -/
theorem parse_queryOfText_appendPairs {s : String} {u : Url} (hu : parse s = .ok u)
    (ps : List (String × String)) :
    Form.parse ((queryOfText (Form.appendPairs u ps).serialize).getD "") =
      Form.parse (u.query.getD "") ++ ps := by
  obtain ⟨q, hq⟩ : ∃ q, (Form.appendPairs u ps).query = some q := ⟨_, rfl⟩
  rw [queryOfText_serialize ((clean_parse hu).appendPairs ps) hq, Option.getD_some,
    ← Form.parse_appendPairs u ps, hq, Option.getD_some]

end Folio.Url
