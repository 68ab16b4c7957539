import Mathlib.Data.List.Forall2
import Switchboard.Proofs.Discovery.Frequency

namespace Switchboard

namespace Text

variable {p q : Char → Bool} {run cs w : List Char}

theorem splitRun_of_unbroken (hrun : run ≠ []) (hcs : ∀ c ∈ cs, p c = false) :
    splitRun p run cs = [run ++ cs] := by
  induction cs generalizing run with
  | nil => simp [splitRun, hrun]
  | cons c cs ih =>
      obtain ⟨hc, hcs⟩ := List.forall_mem_cons.1 hcs
      rw [splitRun, hc, if_neg Bool.false_ne_true, ih (by simp) hcs]
      simp

theorem splitOnBlocks_of_unbroken (hcs : cs ≠ []) (h : ∀ c ∈ cs, p c = false) :
    splitOnBlocks p cs = [cs] := by
  obtain ⟨c, cs, rfl⟩ := List.exists_cons_of_ne_nil hcs
  obtain ⟨hc, hcs⟩ := List.forall_mem_cons.1 h
  rw [splitOnBlocks, splitRun, hc, if_neg Bool.false_ne_true]
  exact splitRun_of_unbroken (List.cons_ne_nil c []) hcs

theorem unbroken_of_mem_splitRun (hrun : ∀ c ∈ run, p c = false) (hw : w ∈ splitRun p run cs) :
    ∀ c ∈ w, p c = false := by
  induction cs generalizing run with
  | nil =>
      rw [splitRun] at hw
      split at hw
      · cases hw
      · rwa [List.mem_singleton.1 hw]
  | cons c cs ih =>
      rw [splitRun] at hw
      split at hw
      · split at hw
        · exact ih (List.forall_mem_nil _) hw
        · rcases List.mem_cons.1 hw with rfl | hw
          · exact hrun
          · exact ih (List.forall_mem_nil _) hw
      · next hc =>
          refine ih (List.forall_mem_append.2 ⟨hrun, ?_⟩) hw
          exact List.forall_mem_singleton.2 (Bool.eq_false_iff.2 hc)

theorem splitRun_map {f : Char → Char} (hp : ∀ c, p (f c) = q c) (hf : ∀ c, q c = false → f c = c) :
    splitRun p run (cs.map f) = splitRun q run cs := by
  induction cs generalizing run with
  | nil => rfl
  | cons c cs ih =>
      rw [List.map_cons, splitRun, splitRun, hp, ih, ih]
      cases hc : q c with
      | true => rfl
      | false => rw [hf c hc]

end Text

namespace Discovery

variable {c : Char}

def mark (c : Char) : Char := if isTokenChar c then c else ' '

theorem mark_of_isTokenChar (h : isTokenChar c = true) : mark c = c := if_pos h

theorem toNat_of_isTokenChar (h : isTokenChar c = true) :
    97 ≤ c.toNat ∧ c.toNat ≤ 122 ∨ 48 ≤ c.toNat ∧ c.toNat ≤ 57 ∨ c.toNat = 95 := by
  simp only [isTokenChar, Bool.or_eq_true, Bool.and_eq_true, decide_eq_true_eq] at h
  rcases h with (h | h) | h
  · exact .inl h
  · exact .inr (.inl h)
  · exact .inr (.inr (congrArg Char.toNat h))

theorem isBreak_of_isTokenChar (h : isTokenChar c = true) : Text.isBreak c = false := by
  have hrange := toNat_of_isTokenChar h
  simp only [Text.isBreak, Text.isBlank, Text.inRanges, Text.blankRanges, Bool.or_eq_false_iff,
    List.any_eq_false, List.mem_cons, List.not_mem_nil, or_false, forall_eq_or_imp, forall_eq,
    Bool.and_eq_true, decide_eq_true_eq]
  omega

theorem isBreak_mark (c : Char) : Text.isBreak (mark c) = !isTokenChar c := by
  cases h : isTokenChar c with
  | true =>
      rw [mark_of_isTokenChar h, isBreak_of_isTokenChar h]
      rfl
  | false =>
      rw [mark, h]
      rfl

def tokensIn (cs : List Char) : List String :=
  ((Text.splitOnBlocks Text.isBreak cs).filter fun t => !isNoise t).map String.ofList

theorem tokensIn_append (xs ys : List Char) :
    tokensIn (xs ++ ' ' :: ys) = tokensIn xs ++ tokensIn ys := by
  rw [tokensIn, Text.splitOnBlocks, Text.splitRun_append _ (by decide), List.filter_append,
    List.map_append]
  rfl

theorem tokensIn_marked (cs : List Char) : tokensIn (cs.map mark) =
    ((Text.splitOnBlocks (fun c => !isTokenChar c) cs).filter fun t => !isNoise t).map
      String.ofList := by
  have hsplit : Text.splitOnBlocks Text.isBreak (cs.map mark) =
      Text.splitOnBlocks (fun c => !isTokenChar c) cs :=
    Text.splitRun_map isBreak_mark fun _ h => mark_of_isTokenChar (by simpa using h)
  rw [tokensIn, hsplit]

structure Clean (t : String) : Prop where
  long : 2 ≤ t.length
  spelled : ∀ c ∈ t.toList, isTokenChar c = true
  significant : t ∉ stopWords

theorem isNoise_eq_false_iff (t : List Char) :
    isNoise t = false ↔ 2 ≤ t.length ∧ String.ofList t ∉ stopWords := by
  simp only [isNoise, Bool.or_eq_false_iff, decide_eq_false_iff_not, Nat.not_le,
    List.contains_eq_mem]
  exact Iff.rfl

theorem clean_of_mem_tokensIn {cs : List Char} {t : String} (h : t ∈ tokensIn (cs.map mark)) :
    Clean t := by
  rw [tokensIn_marked, List.mem_map] at h
  obtain ⟨w, hw, rfl⟩ := h
  obtain ⟨hsplit, hnoise⟩ := List.mem_filter.1 hw
  have hchars := Text.unbroken_of_mem_splitRun (List.forall_mem_nil _) hsplit
  obtain ⟨hlong, hsignificant⟩ := (isNoise_eq_false_iff w).1 (by simpa using hnoise)
  exact ⟨by simpa using hlong, fun c hc => by simpa using hchars c (by simpa using hc),
    hsignificant⟩

theorem Clean.tokensIn_eq {t : String} (h : Clean t) : tokensIn t.toList = [t] := by
  have hne : t.toList ≠ [] := by
    intro hnil
    have hlong := h.long
    rw [← String.length_toList, hnil] at hlong
    cases hlong
  have hnoise : isNoise t.toList = false := by
    rw [isNoise_eq_false_iff, String.ofList_toList, String.length_toList]
    exact ⟨h.long, h.significant⟩
  have hunbroken (c : Char) (hc : c ∈ t.toList) := isBreak_of_isTokenChar (h.spelled c hc)
  rw [tokensIn, Text.splitOnBlocks_of_unbroken hne hunbroken]
  simp [hnoise]

/-- A way to write a text in small letters: each character by itself but the capital sigma, which
has more than one small form, all of them single letters outside ASCII. -/
structure Lowering where
  lower : List Char → List Char
  small : Char → List Char
  each : ∀ cs, ∃ parts, lower cs = parts.flatten ∧ List.Forall₂ (fun c part =>
    if c = '\u03A3' then ∃ x : Char, part = [x] ∧ 128 ≤ x.toNat else part = small c) cs parts
  keeps : ∀ c, isTokenChar c = true ∨ c = ' ' → small c = [c]

namespace Lowering

variable (L : Lowering)

def tokens (s : String) : List String := tokensIn ((L.lower s.toList).map mark)

def left (c : Char) : List Char := if c = '\u03A3' then [' '] else (L.small c).map mark

theorem map_mark_lower (cs : List Char) : (L.lower cs).map mark = cs.flatMap L.left := by
  obtain ⟨parts, hlower, hparts⟩ := L.each cs
  rw [hlower]
  clear hlower
  induction hparts with
  | nil => rfl
  | @cons c part cs parts hpart _ ih =>
      have hleft : part.map mark = L.left c := by
        rw [left]
        split at hpart
        · next hsigma =>
            obtain ⟨x, rfl, hx⟩ := hpart
            have hother : isTokenChar x = false := by
              refine Bool.eq_false_iff.2 fun h => ?_
              have := toNat_of_isTokenChar h
              omega
            rw [if_pos hsigma, List.map_singleton, mark, hother]
            rfl
        · next hsigma => rw [if_neg hsigma, hpart]
      rw [List.flatten_cons, List.map_append, List.flatMap_cons, ih, hleft]

theorem tokens_eq (s : String) : L.tokens s = tokensIn (s.toList.flatMap L.left) := by
  rw [tokens, map_mark_lower]

theorem left_space : L.left ' ' = [' '] := by
  rw [left, if_neg (by decide), L.keeps ' ' (.inr rfl)]
  rfl

theorem left_of_isTokenChar {c : Char} (h : isTokenChar c = true) : L.left c = [c] := by
  have hsigma : c ≠ '\u03A3' := by
    rintro rfl
    exact absurd h (by decide)
  rw [left, if_neg hsigma, L.keeps c (.inl h), List.map_singleton, mark_of_isTokenChar h]

theorem tokens_append (a b : String) : L.tokens (a ++ " " ++ b) = L.tokens a ++ L.tokens b := by
  have hchars : (a ++ " " ++ b).toList = a.toList ++ ' ' :: b.toList := by simp
  rw [tokens_eq, tokens_eq, tokens_eq, hchars, List.flatMap_append, List.flatMap_cons, left_space,
    List.singleton_append, tokensIn_append]

theorem clean_of_mem_tokens {s t : String} (h : t ∈ L.tokens s) : Clean t := clean_of_mem_tokensIn h

theorem tokens_of_clean {t : String} (h : Clean t) : L.tokens t = [t] := by
  have hleft : t.toList.flatMap L.left = t.toList := by
    rw [List.flatMap_congr fun c hc => L.left_of_isTokenChar (h.spelled c hc)]
    exact List.flatMap_singleton' t.toList
  rw [tokens_eq, hleft, h.tokensIn_eq]

theorem tokens_intercalate {ts : List String} (h : ∀ t ∈ ts, Clean t) :
    L.tokens (" ".intercalate ts) = ts := by
  induction ts with
  | nil =>
      rw [String.intercalate_nil, tokens_eq]
      rfl
  | cons t ts ih =>
      obtain ⟨ht, hts⟩ := List.forall_mem_cons.1 h
      cases ts with
      | nil => rw [String.intercalate_singleton, L.tokens_of_clean ht]
      | cons u ts =>
          rw [String.intercalate_cons_cons, tokens_append, ih hts, L.tokens_of_clean ht]
          rfl

def folding : Lowering where
  lower cs := cs.flatMap fold
  small := fold
  each cs := by
    refine ⟨cs.map fold, rfl, List.forall₂_map_right_iff.2 (List.forall₂_same.2 fun c _ => ?_)⟩
    split
    · next hsigma =>
        rw [hsigma]
        exact ⟨'\u03A3', by decide, by decide⟩
    · rfl
  keeps c h := by
    have hrange : 97 ≤ c.toNat ∧ c.toNat ≤ 122 ∨ c.toNat ≤ 57 ∨ c.toNat = 95 := by
      rcases h with h | rfl
      · have := toNat_of_isTokenChar h
        omega
      · decide
    have hcapital : ¬ ('A' ≤ c ∧ c ≤ 'Z') := fun hc => by
      have hlow : 65 ≤ c.toNat := hc.1
      have hhigh : c.toNat ≤ 90 := hc.2
      omega
    have hne {d : Char} (hd : 128 ≤ d.toNat) : c ≠ d := by
      rintro rfl
      omega
    rw [fold, if_neg hcapital, if_neg (hne (by decide)), if_neg (hne (by decide))]

theorem tokens_eq_tokenize {L : Lowering}
    (h : ∀ c, c ≠ '\u03A3' → (L.small c).map mark = (fold c).map mark) (s : String) :
    L.tokens s = tokenize s := by
  have hleft (c : Char) : L.left c = (fold c).map mark := by
    rw [left]
    split
    · next hsigma =>
        rw [hsigma]
        decide
    · next hsigma => exact h c hsigma
  rw [tokens_eq, tokenize, tokenChars, ← tokensIn_marked, List.map_flatMap, funext hleft]

end Lowering

structure Tokenizes (tokens : String → List String) : Prop where
  append : ∀ a b, tokens (a ++ " " ++ b) = tokens a ++ tokens b
  clean : ∀ s, ∀ t ∈ tokens s, Clean t
  onto : ∀ ts, (∀ t ∈ ts, Clean t) → tokens (" ".intercalate ts) = ts
  restored : ∀ s, tokens (" ".intercalate (tokens s)) = tokens s

theorem Lowering.tokenizes (L : Lowering) : Tokenizes L.tokens where
  append := L.tokens_append
  clean _ _ := L.clean_of_mem_tokens
  onto _ := L.tokens_intercalate
  restored _ := L.tokens_intercalate fun _ => L.clean_of_mem_tokens

theorem tokenizes_under_any_lowering :
    Tokenizes tokenize ∧
    (∀ e : Entry, e.tokens = tokenize e.tool ++ tokenize e.description) ∧
    ∀ L : Lowering, Tokenizes L.tokens ∧
      ((∀ c, c ≠ '\u03A3' → (L.small c).map mark = (fold c).map mark) → L.tokens = tokenize) := by
  have hfolding : Lowering.folding.tokens = tokenize :=
    funext (Lowering.tokens_eq_tokenize fun _ _ => rfl)
  refine ⟨hfolding ▸ Lowering.folding.tokenizes, fun e => tokenize_append e.tool e.description, ?_⟩
  intro L
  exact ⟨L.tokenizes, fun h => funext (Lowering.tokens_eq_tokenize h)⟩

/-- The Kelvin sign is made small as a letter of ASCII. -/
theorem tokenizes_under_folding :
    Lowering.folding.tokens = tokenize ∧ tokenize "Set the \u212Aey" = ["set", "key"] := by
  refine ⟨(tokenizes_under_any_lowering.2.2 Lowering.folding).2 fun _ _ => rfl, ?_⟩
  decide +kernel

end Discovery

end Switchboard
