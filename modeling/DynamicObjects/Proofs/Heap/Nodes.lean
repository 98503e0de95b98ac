import DynamicObjects.Proofs.Heap.Bindings
import DynamicObjects.World
import Mathlib.Order.Basic

/-! # Nodes

    The nodes of a value are the value itself and the nodes of its elements;
    the nodes of a world are those of all values in the properties of its
    objects.  References are not followed.

    Whatever can be met on the way from a value through elements and payloads
    is a node of that value or of the world, and there are exactly as many
    nodes as `Value.size` and `World.weight` count. -/

namespace DynamicObjects

namespace Value

/-! ## Nodes of a value -/

mutual

/-- A value and everything inside it. -/
def nodes : Value → List Value
  | .list items => .list items :: nodesList items
  | .dict entries => .dict entries :: nodesEntries entries
  | v => [v]

/-- The nodes of the values of a list. -/
def nodesList : List Value → List Value
  | [] => []
  | v :: rest => nodes v ++ nodesList rest

/-- The nodes of the values of a mapping. -/
def nodesEntries : List (String × Value) → List Value
  | [] => []
  | (_, v) :: rest => nodes v ++ nodesEntries rest

end

@[simp] theorem self_mem_nodes (v : Value) : v ∈ v.nodes := by
  cases v <;> simp [nodes]

theorem nodesList_eq_flatMap (items : List Value) : nodesList items = items.flatMap nodes := by
  induction items with
  | nil => rfl
  | cons v rest ih => rw [nodesList, ih, List.flatMap_cons]

theorem nodesEntries_eq_flatMap (entries : List (String × Value)) :
    nodesEntries entries = entries.flatMap (fun entry => entry.2.nodes) := by
  induction entries with
  | nil => rfl
  | cons entry rest ih =>
    obtain ⟨name, v⟩ := entry
    rw [nodesEntries, ih, List.flatMap_cons]

theorem mem_nodesList {u : Value} {items : List Value} :
    u ∈ nodesList items ↔ ∃ v ∈ items, u ∈ v.nodes := by
  rw [nodesList_eq_flatMap, List.mem_flatMap]

theorem mem_nodesEntries {u : Value} {entries : List (String × Value)} :
    u ∈ nodesEntries entries ↔ ∃ entry ∈ entries, u ∈ entry.2.nodes := by
  rw [nodesEntries_eq_flatMap, List.mem_flatMap]

/-- One value is an element of another: of a list, or of a mapping under some name. -/
inductive IsElement (a : Value) : Value → Prop where
  | list {items : List Value} (h : a ∈ items) : IsElement a (.list items)
  | dict {entries : List (String × Value)} {name : String} (h : (name, a) ∈ entries) :
      IsElement a (.dict entries)

theorem IsElement.mem_nodes {a v : Value} (h : IsElement a v) : a ∈ v.nodes := by
  cases h with
  | list h =>
    rw [nodes]
    exact List.mem_cons_of_mem _ (mem_nodesList.mpr ⟨a, h, a.self_mem_nodes⟩)
  | dict h =>
    rw [nodes]
    exact List.mem_cons_of_mem _ (mem_nodesEntries.mpr ⟨(_, a), h, a.self_mem_nodes⟩)

mutual

/-- The nodes of a node of a value are nodes of the value. -/
theorem nodes_subset_of_mem (v : Value) {t : Value} (h : v ∈ t.nodes) : v.nodes ⊆ t.nodes := by
  match t with
  | .list items =>
    rw [nodes, List.mem_cons] at h
    rcases h with rfl | h
    · exact List.Subset.refl _
    · rw [nodes]
      exact fun u hu => List.mem_cons_of_mem _ (nodesList_closed v items h hu)
  | .dict entries =>
    rw [nodes, List.mem_cons] at h
    rcases h with rfl | h
    · exact List.Subset.refl _
    · rw [nodes]
      exact fun u hu => List.mem_cons_of_mem _ (nodesEntries_closed v entries h hu)
  | .null | .bool _ | .int _ | .float _ | .complex _ | .text _ | .function _ | .foreign _
  | .object _ =>
    simp only [nodes, List.mem_singleton] at h
    subst h
    exact List.Subset.refl _

theorem nodesList_closed (v : Value) (items : List Value) (h : v ∈ nodesList items) :
    v.nodes ⊆ nodesList items := by
  match items with
  | [] => cases h
  | first :: rest =>
    rw [nodesList, List.mem_append] at h
    rw [nodesList]
    rcases h with h | h
    · exact fun u hu => List.mem_append_left _ (nodes_subset_of_mem v h hu)
    · exact fun u hu => List.mem_append_right _ (nodesList_closed v rest h hu)

theorem nodesEntries_closed (v : Value) (entries : List (String × Value))
    (h : v ∈ nodesEntries entries) : v.nodes ⊆ nodesEntries entries := by
  match entries with
  | [] => cases h
  | (_, first) :: rest =>
    rw [nodesEntries, List.mem_append] at h
    rw [nodesEntries]
    rcases h with h | h
    · exact fun u hu => List.mem_append_left _ (nodes_subset_of_mem v h hu)
    · exact fun u hu => List.mem_append_right _ (nodesEntries_closed v rest h hu)

end

theorem size_pos (v : Value) : 0 < v.size := by
  cases v <;> simp [size]

mutual

theorem length_nodes (v : Value) : v.nodes.length = v.size := by
  match v with
  | .list items => rw [nodes, size, List.length_cons, length_nodesList items]
  | .dict entries => rw [nodes, size, List.length_cons, length_nodesEntries entries]
  | .null | .bool _ | .int _ | .float _ | .complex _ | .text _ | .function _ | .foreign _
  | .object _ => rfl

theorem length_nodesList (items : List Value) : (nodesList items).length = sizeList items := by
  match items with
  | [] => rfl
  | v :: rest =>
    rw [nodesList, sizeList, List.length_append, length_nodes v, length_nodesList rest]

theorem length_nodesEntries (entries : List (String × Value)) :
    (nodesEntries entries).length = sizeEntries entries := by
  match entries with
  | [] => rfl
  | (_, v) :: rest =>
    rw [nodesEntries, sizeEntries, List.length_append, length_nodes v, length_nodesEntries rest]

end

theorem IsElement.size_lt {a v : Value} (h : IsElement a v) : a.size < v.size := by
  cases h with
  | @list items h =>
    have hle : a.size ≤ sizeList items := by
      rw [← length_nodes, ← length_nodesList, nodesList_eq_flatMap]
      exact (List.sublist_flatten_of_mem (List.mem_map_of_mem h)).length_le
    rw [size]
    omega
  | @dict entries name h =>
    have hle : a.size ≤ sizeEntries entries := by
      rw [← length_nodes, ← length_nodesEntries, nodesEntries_eq_flatMap]
      exact (List.sublist_flatten_of_mem
        (List.mem_map_of_mem (f := fun entry => entry.2.nodes) h)).length_le
    rw [size]
    omega

end Value

/-! ## Nodes of a world -/

namespace Object

/-- The nodes of all properties of an object. -/
def nodes (x : Object) : List Value := x.properties.flatMap (fun entry => entry.2.nodes)

theorem foldl_size (x : Object) (n : Nat) :
    x.properties.foldl (fun n entry => n + entry.2.size) n = n + x.nodes.length := by
  rw [nodes]
  generalize x.properties = properties
  induction properties generalizing n with
  | nil => rfl
  | cons entry rest ih =>
    rw [List.foldl_cons, ih, List.flatMap_cons, List.length_append, Value.length_nodes]
    omega

end Object

namespace World

/-- The nodes of all properties of all objects. -/
def nodes (w : World) : List Value :=
  w.heap.toList.flatMap (fun slot => (slot.map Object.nodes).getD [])

theorem mem_nodes {w : World} {u : Value} {o : ObjectId} {x : Object}
    (hx : w.object? o = some x) (hu : u ∈ x.nodes) : u ∈ w.nodes := by
  have hslot : w.heap[o.index]? = some (some x) := by
    rw [object?, Option.join_eq_some_iff] at hx
    exact hx
  have hmem : some x ∈ w.heap.toList := by
    rw [Array.mem_toList_iff]
    exact Array.mem_of_getElem? hslot
  exact List.mem_flatMap.mpr ⟨some x, hmem, hu⟩

/-- The value of a property is a node of the world, and so is all inside it. -/
theorem nodes_property_subset {w : World} {o : ObjectId} {name : String} {v : Value}
    (h : w.property? o name = some v) : v.nodes ⊆ w.nodes := by
  rw [property?, object] at h
  cases hx : w.object? o with
  | none =>
    rw [hx] at h
    cases h
  | some x =>
    rw [hx] at h
    intro u hu
    apply mem_nodes hx
    exact List.mem_flatMap.mpr ⟨(name, v), Bindings.mem_of_get?_eq_some h, hu⟩

/-- What a node unwraps to is a node. -/
theorem unwrap_mem_nodes {w : World} {l : List Value} {v : Value} (hw : w.nodes ⊆ l)
    (hv : v ∈ l) : w.unwrap v ∈ l := by
  cases v with
  | object o =>
    rw [unwrap]
    cases hp : w.payload? o with
    | none => exact hv
    | some u => exact hw (nodes_property_subset hp (Value.self_mem_nodes u))
  | _ => exact hv

theorem length_nodes (w : World) : w.nodes.length = w.weight := by
  rw [weight, ← Array.foldl_toList, nodes, ← Nat.zero_add (List.length _)]
  generalize w.heap.toList = slots
  generalize 0 = n
  induction slots generalizing n with
  | nil => rfl
  | cons slot rest ih =>
    rw [List.foldl_cons, ← ih, List.flatMap_cons, List.length_append, ← Nat.add_assoc]
    cases slot with
    | none => rfl
    | some x => simp only [Object.foldl_size, Option.map_some, Option.getD_some]

end World

end DynamicObjects
