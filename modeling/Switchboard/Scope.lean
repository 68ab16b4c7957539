namespace Switchboard.Scope

def covers (parent child : String) : Bool :=
  parent = "*" || parent = child ||
    ([':', '*'].isSuffixOf parent.toList && parent.toList.dropLast.isPrefixOf child.toList)

def isSubset (parents children : List String) : Bool :=
  children.all (fun child => parents.any (fun parent => covers parent child))

def accepted (backend tool : String) : List String :=
  ["*", "*:*", "*:" ++ tool, backend, backend ++ ":*", backend ++ ":" ++ tool]

def permits (scopes : Option (List String)) (backend tool : String) : Bool :=
  match scopes with
  | none => true
  | some scopes => scopes.any (fun s => (accepted backend tool).contains s)

theorem covers_self (s : String) : covers s s = true := by
  simp [covers]

theorem isSubset_iff (parents children : List String) :
    isSubset parents children = true ↔ ∀ c ∈ children, ∃ p ∈ parents, covers p c = true := by
  simp [isSubset]

theorem permits_some_iff (scopes : List String) (backend tool : String) :
    permits (some scopes) backend tool = true ↔ ∃ s ∈ scopes, s ∈ accepted backend tool := by
  simp [permits]

end Switchboard.Scope
