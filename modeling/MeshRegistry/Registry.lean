import MeshRegistry.Endpoint
import Std.Data.ExtTreeMap

/-!
# The registry

The endpoints by the text of their keys.  A walk hands the entries out in an order of its own and
may break off before the end; it changes nothing.
-/

namespace MeshRegistry

structure Registry where
  entries : Std.ExtTreeMap String Endpoint

namespace Registry

def empty : Registry := ⟨∅⟩

instance : Inhabited Registry := ⟨empty⟩

/-- Stores an endpoint under a key, in place of what was there. -/
def put (r : Registry) (key : ServiceKey) (e : Endpoint) : Registry :=
  ⟨r.entries.insert key.text e⟩

def get? (r : Registry) (key : String) : Option Endpoint :=
  r.entries[key]?

def delete (r : Registry) (key : String) : Registry :=
  ⟨r.entries.erase key⟩

def size (r : Registry) : Nat :=
  r.entries.size

/-- All keys and endpoints, the keys ascending. -/
def toList (r : Registry) : List (String × Endpoint) :=
  r.entries.toList

@[ext] theorem ext_get? {a b : Registry} (h : ∀ k, a.get? k = b.get? k) : a = b := by
  cases a
  cases b
  congr
  exact Std.ExtTreeMap.ext_getElem? h

@[simp] theorem get?_empty (k : String) : empty.get? k = none := by
  simp [get?, empty]

theorem get?_put (r : Registry) (key : ServiceKey) (e : Endpoint) (k : String) :
    (r.put key e).get? k = if key.text = k then some e else r.get? k := by
  simp [get?, put, Std.ExtTreeMap.getElem?_insert]

theorem get?_delete (r : Registry) (key k : String) :
    (r.delete key).get? k = if key = k then none else r.get? k := by
  simp [get?, delete, Std.ExtTreeMap.getElem?_erase]

theorem mem_toList_iff {r : Registry} {k : String} {e : Endpoint} :
    (k, e) ∈ r.toList ↔ r.get? k = some e := by
  simp [toList, get?]

end Registry

/-- How a store hands out its entries: in which order, and after how many it breaks off. -/
structure Walk where
  order : List (String × Endpoint) → List (String × Endpoint)
  order_perm : ∀ l, (order l).Perm l
  breaksAfter : Option Nat

namespace Walk

def whole : Walk := ⟨id, fun _ => .refl _, none⟩

/-- In the order of the keys, breaking off after so many entries. -/
def brokenAfter (n : Nat) : Walk := ⟨id, fun _ => .refl _, some n⟩

def interruption : RegistryError := .serviceNotFound "walk interrupted"

end Walk

namespace Registry

/-- The entries that a walk hands out, and why it breaks off if it does. -/
def handedOut (r : Registry) (w : Walk) : List (String × Endpoint) × Option RegistryError :=
  let all := w.order r.toList
  match w.breaksAfter with
  | none => (all, none)
  | some n => if n < all.length then (all.take n, some Walk.interruption) else (all, none)

/-- Shows each entry to a visitor, until one visit fails or there are no more. -/
def visitEach {σ : Type} (visitor : σ → String → Endpoint → σ × Option RegistryError)
    (ending : Option RegistryError) : σ → List (String × Endpoint) → σ × Option RegistryError
  | s, [] => (s, ending)
  | s, (k, e) :: rest =>
    match visitor s k e with
    | (s, some error) => (s, some error)
    | (s, none) => visitEach visitor ending s rest

/-- Walks the registry with a visitor that may end the walk. -/
def forEach {σ : Type} (r : Registry) (w : Walk)
    (visitor : σ → String → Endpoint → σ × Option RegistryError) (s : σ) :
    σ × Option RegistryError :=
  let (entries, ending) := r.handedOut w
  visitEach visitor ending s entries

end Registry

end MeshRegistry
