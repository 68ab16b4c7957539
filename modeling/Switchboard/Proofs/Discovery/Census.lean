import Switchboard.Proofs.Discovery.Frequency
import Switchboard.Proofs.Discovery.Ranking
import Switchboard.Proofs.Number.Bounds

namespace Switchboard.Discovery

open Number (Elementary)

/-- The places of the entries that have the token, however often they have it. -/
def holders (es : List Entry) (t : String) : Finset (Fin es.length) :=
  Finset.univ.filter fun p => t ∈ es[p].tokens

theorem card_holders (es : List Entry) (t : String) : (holders es t).card = mentions es t := by
  induction es with
  | nil => rfl
  | cons e es ih =>
      have hsplit : (holders (e :: es) t).card =
          (if t ∈ e.tokens then 1 else 0) + (holders es t).card :=
        Fin.card_filter_univ_succ' fun p => t ∈ (e :: es)[p].tokens
      rw [hsplit, ih, mentions, mentions, List.countP_cons, Nat.add_comm]
      simp only [Entry.mem_tokens_iff, decide_eq_true_iff]

namespace Index

section Elementary

variable [Elementary]

theorem tabulates_counts (es : List Entry) {d : Document} (hd : d ∈ (build es).documents) :
    Tabulates d.counts d.entry.tokens.count := by
  obtain ⟨e, -, rfl⟩ := List.mem_map.1 hd
  exact tabulates_tally e.tokens

theorem build_counts_exactly (es : List Entry) :
    let i := build es
    i.documents.map Document.entry = es ∧
    (∀ d ∈ i.documents, Tabulates d.counts d.entry.tokens.count) ∧
    (Tabulates i.frequencies fun t => (holders es t).card) ∧
    (i.weights.map Prod.fst).Nodup ∧
    (∀ t, t ∈ i.weights.map Prod.fst ↔ ∃ e ∈ es, t ∈ e.tokens) ∧
    ∀ t ∈ i.weights.map Prod.fst,
      let df := (holders es t).card
      i.weights.lookup t = some (Elementary.log (Float.ofNat es.length / Float.ofNat df)) ∧
      1 ≤ df ∧ df ≤ es.length ∧ (1 : ℚ) ≤ es.length / df ∧
      0.0 < Float.ofNat df ∧
      (es.length ≤ 2 ^ 1023 → 1.0 ≤ Float.ofNat es.length / Float.ofNat df) := by
  intro i
  have hkeys : i.weights.map Prod.fst = i.frequencies.map Prod.fst := keys_weights es
  have htable : Tabulates i.frequencies (mentions es) := tabulates_frequencies es
  simp only [card_holders, hkeys]
  refine ⟨documents_build es, fun d => tabulates_counts es, htable, htable.distinct, ?_, ?_⟩
  · intro t
    rw [htable.mem_keys_iff, mentions_pos_iff]
    simp only [Entry.mem_tokens_iff]
  · intro t ht
    have hpos : 0 < mentions es t := (htable.mem_keys_iff t).1 ht
    have hle : mentions es t ≤ es.length := mentions_le es t
    have hlookup : i.weights.lookup t = some (rarity es.length (mentions es t)) := by
      rw [lookup_weights, if_pos hpos]
    have hquotient : (1 : ℚ) ≤ es.length / mentions es t := by
      rw [one_le_div (by exact_mod_cast hpos)]
      exact_mod_cast hle
    exact ⟨hlookup, hpos, hle, hquotient, (Number.Marks.ofNat _).pos.2 hpos,
      Number.one_le_ofNat_div hpos hle⟩

end Elementary

def mailroom : List Entry :=
  [⟨"post", "Post", "mail", "Mail the mail room"⟩, ⟨"chat", "Chat", "send", "Mail to a friend"⟩,
    ⟨"text", "Text", "count_words", "Count the words"⟩]

theorem build_counts_exactly_mailroom :
    let i := build mailroom
    i.documents.map (fun d => occurrences d.counts "mail") = [3, 1, 0] ∧
    occurrences i.frequencies "mail" = 2 ∧
    "mail" ∈ i.weights.map Prod.fst ∧
    i.weights.lookup "mail" = some (Elementary.log (Float.ofNat 3 / Float.ofNat 2)) ∧
    mailroom.length ≤ 2 ^ 1023 ∧
    1.0 ≤ Float.ofNat 3 / Float.ofNat 2 := by
  intro i
  obtain ⟨hentries, hcounts, hfrequencies, -, hkeys, hweights⟩ := build_counts_exactly mailroom
  have hdf : (holders mailroom "mail").card = 2 := by decide +kernel
  have hmail : "mail" ∈ i.weights.map Prod.fst := (hkeys "mail").2 (by decide +kernel)
  have hpower (n : Nat) : n ≤ 2 ^ n := Nat.lt_two_pow_self.le
  have hsize : mailroom.length ≤ 2 ^ 1023 :=
    (by decide : mailroom.length ≤ 1023).trans (hpower 1023)
  obtain ⟨hlookup, -, -, -, -, hquotient⟩ := hweights "mail" hmail
  rw [hdf] at hlookup hquotient
  have htallies : i.documents.map (fun d => occurrences d.counts "mail") =
      (i.documents.map Document.entry).map fun e => e.tokens.count "mail" := by
    rw [List.map_map]
    exact List.map_congr_left fun d hd => (hcounts d hd).occurrences_eq "mail"
  rw [hentries] at htallies
  refine ⟨htallies.trans (by decide +kernel), ?_, hmail, hlookup, hsize, hquotient hsize⟩
  rw [hfrequencies.occurrences_eq, hdf]

end Index

end Switchboard.Discovery
