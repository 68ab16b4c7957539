namespace Switchboard

variable {α β : Type}

/-- What came up in a history and has not ended since, the oldest first. -/
def lasting (born : α → Option β) (ends : β → α → Bool) : List α → List β
  | [] => []
  | a :: after =>
      ((born a).filter (fun b => !after.any (ends b))).toList ++ lasting born ends after

theorem lasting_concat (born : α → Option β) (ends : β → α → Bool) (h : List α) (a : α) :
    lasting born ends (h ++ [a]) =
      (lasting born ends h).filter (fun b => !ends b a) ++ (born a).toList := by
  induction h with
  | nil =>
      simp only [List.nil_append, lasting, List.any_nil, List.filter_nil, List.append_nil]
      cases born a <;> rfl
  | cons e h ih =>
      rw [List.cons_append, lasting, ih, lasting, List.filter_append, List.append_assoc]
      apply congrArg (· ++ _)
      cases born e with
      | none => rfl
      | some b =>
          cases hb : h.any (ends b) with
          | true => simp [Option.filter, hb]
          | false => cases ha : ends b a <;> simp [Option.filter, hb, ha]

end Switchboard
