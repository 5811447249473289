import Mathlib.Data.List.AList
import Mathlib.Data.List.MinMax
import Mathlib.Order.Nat

/-!
# `HistogramBase::GetPermanentName`

`GetPermanentName(name)` inserts `name`, under a lock, into a
`std::set<std::string>` that lives as long as the process, and returns the
`c_str()` of the element the insert names: the one already there for an equal
string, or the new one. The set never erases an element and never moves one.

The model keeps each node of the set with its address; `operator new` gives a
new node an address that no node has (`NodeAllocator`), and a
`PermanentNames` carries the fact that its nodes have distinct addresses.
-/

namespace BaseLib.Metrics

/-- `operator new` for a node of the set: an address no node has. -/
structure NodeAllocator where
  next : List Nat → Nat
  fresh : ∀ used, next used ∉ used

def NodeAllocator.aboveAll : NodeAllocator where
  next used := used.foldr max ⊥ + 1
  fresh _ h := Nat.not_succ_le_self _ (List.le_max_of_le h le_rfl)

/-- The nodes of `permanent_names`: each name with the address of its node. -/
structure PermanentNames where
  nodes : AList fun _ : String => Nat
  addresses_nodup : (nodes.entries.map fun e => e.2).Nodup

namespace PermanentNames

def addresses (s : PermanentNames) : List Nat := s.nodes.entries.map fun e => e.2

theorem nodup_insert {s : PermanentNames} {name : String} {p : Nat} (hname : name ∉ s.nodes)
    (hp : p ∉ s.addresses) : ((s.nodes.insert name p).entries.map fun e => e.2).Nodup := by
  rw [AList.insert_entries_of_neg hname, List.map_cons]
  exact List.nodup_cons.2 ⟨hp, s.addresses_nodup⟩

/-- `GetPermanentName(name)`: the address of the node for `name`, inserted if
the set has none, and the set after the call. -/
def getPermanentName (alloc : NodeAllocator) (s : PermanentNames) (name : String) :
    Nat × PermanentNames :=
  match h : s.nodes.lookup name with
  | some p => (p, s)
  | none =>
    (alloc.next s.addresses,
      ⟨s.nodes.insert name (alloc.next s.addresses),
        nodup_insert (AList.lookup_eq_none.1 h) (alloc.fresh _)⟩)

end PermanentNames

end BaseLib.Metrics
