import Switchboard.Discovery.Ranking
import Switchboard.Proofs.Discovery.Tally

namespace Switchboard

theorem Text.splitRun_append (p : Char → Bool) {c : Char} (hc : p c = true) (xs ys : List Char)
    (run : List Char) :
    splitRun p run (xs ++ c :: ys) = splitRun p run xs ++ splitRun p [] ys := by
  induction xs generalizing run with
  | nil =>
      simp only [List.nil_append, splitRun, hc, if_true]
      split <;> rfl
  | cons x xs ih =>
      rw [List.cons_append, splitRun, splitRun]
      split
      · split
        · exact ih []
        · rw [ih [], List.cons_append]
      · exact ih (run ++ [x])

namespace Discovery

open Number (Elementary)

theorem tokenize_append (a b : String) : tokenize (a ++ " " ++ b) = tokenize a ++ tokenize b := by
  have hchars : (a ++ " " ++ b).toList = a.toList ++ ' ' :: b.toList := by simp
  have hfold : fold ' ' = [' '] := by decide
  rw [tokenize, hchars, tokenChars, List.flatMap_append, List.flatMap_cons, hfold,
    List.singleton_append, Text.splitOnBlocks, Text.splitRun_append _ (by decide),
    List.filter_append, List.map_append]
  rfl

namespace Entry

def Mentions (e : Entry) (t : String) : Prop := t ∈ tokenize e.tool ∨ t ∈ tokenize e.description

instance (e : Entry) (t : String) : Decidable (e.Mentions t) :=
  inferInstanceAs (Decidable (_ ∨ _))

theorem mem_tokens_iff (e : Entry) (t : String) : t ∈ e.tokens ↔ e.Mentions t := by
  rw [tokens, tokenize_append, List.mem_append, Mentions]

end Entry

theorem mem_terms_iff (e : Entry) (t : String) : t ∈ (Document.ofEntry e).terms ↔ e.Mentions t := by
  rw [← Entry.mem_tokens_iff]
  exact mem_keys_tally e.tokens

def mentions (es : List Entry) (t : String) : Nat := es.countP (fun e => decide (e.Mentions t))

theorem count_terms (es : List Entry) (t : String) :
    ((es.map Document.ofEntry).flatMap Document.terms).count t = mentions es t := by
  induction es with
  | nil => rfl
  | cons e es ih =>
      have hterms : (Document.ofEntry e).terms.count t = if e.Mentions t then 1 else 0 := by
        have hnodup : (Document.ofEntry e).terms.Nodup := nodup_keys_tally e.tokens
        rw [hnodup.count]
        exact if_congr (mem_terms_iff e t) rfl rfl
      rw [List.map_cons, List.flatMap_cons, List.count_append, hterms, ih, mentions, mentions,
        List.countP_cons, Nat.add_comm]
      simp only [decide_eq_true_iff]

theorem mentions_le (es : List Entry) (t : String) : mentions es t ≤ es.length :=
  List.countP_le_length

theorem mentions_pos_iff (es : List Entry) (t : String) :
    0 < mentions es t ↔ ∃ e ∈ es, e.Mentions t := by
  simp only [mentions, List.countP_pos_iff, decide_eq_true_iff]

theorem mentions_lt_iff (es : List Entry) (t : String) :
    mentions es t < es.length ↔ ∃ e ∈ es, ¬ e.Mentions t := by
  rw [Nat.lt_iff_le_and_ne, and_iff_right (mentions_le es t), Ne, mentions, List.countP_eq_length]
  simp only [decide_eq_true_iff, not_forall, exists_prop]

def Distinguishes (es : List Entry) (t : String) : Prop :=
  (∃ e ∈ es, e.Mentions t) ∧ ∃ e ∈ es, ¬ e.Mentions t

theorem lookup_map_snd {α β : Type} (g : α → β) (m : List (String × α)) (t : String) :
    (m.map fun f => (f.1, g f.2)).lookup t = (m.lookup t).map g := by
  induction m with
  | nil => rfl
  | cons f m ih =>
      rw [List.map_cons, List.lookup_cons, List.lookup_cons]
      split <;> simp_all

namespace Index

variable [Elementary] (es : List Entry)

theorem frequencies_build : (build es).frequencies =
    tally ((es.map Document.ofEntry).flatMap Document.terms) := rfl

theorem tabulates_frequencies : Tabulates (build es).frequencies (mentions es) := by
  rw [frequencies_build, ← funext (count_terms es)]
  exact tabulates_tally _

theorem mem_frequencies_iff (t : String) (n : Nat) :
    (t, n) ∈ (build es).frequencies ↔ 0 < n ∧ n = mentions es t :=
  (tabulates_frequencies es).mem_iff

theorem weights_build :
    (build es).weights = (build es).frequencies.map fun f => (f.1, rarity es.length f.2) := by
  rw [build, List.length_map]

theorem keys_weights :
    (build es).weights.map Prod.fst = (build es).frequencies.map Prod.fst := by
  rw [weights_build, List.map_map]
  rfl

theorem lookup_weights (t : String) : (build es).weights.lookup t =
    if 0 < mentions es t then some (rarity es.length (mentions es t)) else none := by
  rw [weights_build, lookup_map_snd, (tabulates_frequencies es).lookup_eq]
  split <;> rfl

theorem weight_build (t : String) : (build es).weight t =
    if 0 < mentions es t then rarity es.length (mentions es t) else 0.0 := by
  rw [weight, lookup_weights]
  split <;> rfl

theorem weight_cases (t : String) :
    (∃ n, 0 < n ∧ n ≤ es.length ∧ (build es).weight t = rarity es.length n ∧
      (n < es.length ↔ Distinguishes es t)) ∨
    (build es).weight t = 0.0 ∧ ¬ Distinguishes es t := by
  by_cases hpos : 0 < mentions es t
  · refine .inl ⟨mentions es t, hpos, mentions_le es t, by rw [weight_build, if_pos hpos], ?_⟩
    rw [mentions_lt_iff, Distinguishes, ← mentions_pos_iff, and_iff_right hpos]
  · refine .inr ⟨by rw [weight_build, if_neg hpos], fun ht => ?_⟩
    exact hpos ((mentions_pos_iff es t).2 ht.1)

end Index

end Discovery

end Switchboard
