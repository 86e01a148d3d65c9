/-
**Go maps**, as values and as references.

A Go map holds each key once and gives its entries no order. `GoMap` is Mathlib's
`AList`, whose `lookup` is the map index; statements about maps below are made
through `lookup`, so the order in which the model happens to keep entries never
shows.

A map is also a reference type: `copyLabels`, `mergeStringMap` and the assignments
`labels[k] = v` of the forwarder write through one, and whether a write reaches a
map that another piece of code holds is exactly what the forwarder's claims are
about. So the `map[string]string` values the code writes live in a `Heap`, and
what the program holds is a `Ref`. The `map[int]string` severity maps are only
ever written by `Validate`, which writes every change back into the configuration
it returns, so they stay plain values.
-/
import Mathlib.Data.List.AList
import Gotilert.Go.Strings

set_option autoImplicit false

namespace Gotilert.Go

/-- A Go `map[κ]ν`. -/
abbrev GoMap (κ ν : Type) := AList (fun _ : κ => ν)

section Copy

variable {κ ν : Type} [DecidableEq κ]

/-- `maps.Copy(dst, src)`: every entry of `src` assigned into `dst`, overwriting. -/
def copyInto (dst src : GoMap κ ν) : GoMap κ ν :=
  src.entries.foldl (fun d e => d.insert e.1 e.2) dst

theorem lookup_foldl_insert (k : κ) :
    ∀ (es : List (Sigma fun _ : κ => ν)) (d : GoMap κ ν), es.NodupKeys →
      (es.foldl (fun d e => d.insert e.1 e.2) d).lookup k = (es.dlookup k).or (d.lookup k)
  | [], d, _ => by simp
  | ⟨k', v⟩ :: es, d, h => by
    rw [List.nodupKeys_cons] at h
    rw [List.foldl_cons, lookup_foldl_insert k es _ h.2]
    by_cases hk : k = k'
    · subst hk
      rw [AList.lookup_insert, List.dlookup_cons_eq, List.dlookup_eq_none.mpr h.1]
      rfl
    · rw [AList.lookup_insert_ne hk, List.dlookup_cons_ne _ _ hk]

/-- **`maps.Copy` overrides.** A key of `src` reads its `src` value afterwards, any
other key what it read in `dst`. -/
@[simp] theorem lookup_copyInto (dst src : GoMap κ ν) (k : κ) :
    (copyInto dst src).lookup k = (src.lookup k).or (dst.lookup k) :=
  lookup_foldl_insert k _ _ src.nodupKeys

theorem lookup_insert_eq_ite (m : GoMap κ ν) (k' : κ) (v : ν) (k : κ) :
    (m.insert k' v).lookup k = if k = k' then some v else m.lookup k := by
  split_ifs with h
  · subst h; exact AList.lookup_insert m
  · exact AList.lookup_insert_ne h

theorem mem_keys_iff_lookup_isSome (m : GoMap κ ν) (k : κ) : k ∈ m.keys ↔ (m.lookup k).isSome := by
  rw [AList.lookup_isSome, AList.mem_keys]

theorem lookup_eq_none_of_not_mem_keys {m : GoMap κ ν} {k : κ} (h : k ∉ m.keys) : m.lookup k = none :=
  Option.not_isSome_iff_eq_none.mp fun hs => h ((mem_keys_iff_lookup_isSome m k).mpr hs)

end Copy

/-- An order in which `for k := range m` may visit the keys of `m`: Go leaves it
unspecified and varies it from one loop to the next, but it visits every key once. -/
structure Enumeration {κ ν : Type} (m : GoMap κ ν) where
  keys : List κ
  perm : keys.Perm m.keys

/-- The order the model itself keeps the entries in. -/
def Enumeration.ofKeys {κ ν : Type} (m : GoMap κ ν) : Enumeration m := ⟨m.keys, .refl _⟩

/-! ## The heap of `map[string]string` values -/

/-- A reference to a `map[string]string`. -/
structure Ref where
  addr : Nat
  deriving DecidableEq, Repr

/-- Every `map[string]string` in memory, by address. -/
structure Heap where
  maps : List (GoMap GoString GoString)

namespace Heap

/-- The contents of the map `r` refers to. -/
def read (h : Heap) (r : Ref) : GoMap GoString GoString := h.maps.getD r.addr ∅

/-- `make(map[string]string)` filled with `m`: a fresh reference, past every other. -/
def alloc (h : Heap) (m : GoMap GoString GoString) : Ref × Heap :=
  (⟨h.maps.length⟩, ⟨h.maps ++ [m]⟩)

/-- `m[k] = v` through the reference `r`. -/
def write (h : Heap) (r : Ref) (k v : GoString) : Heap :=
  ⟨h.maps.set r.addr ((h.read r).insert k v)⟩

/-- `r` refers to a map that has been allocated. -/
def Valid (h : Heap) (r : Ref) : Prop := r.addr < h.maps.length

theorem length_alloc (h : Heap) (m : GoMap GoString GoString) :
    (h.alloc m).2.maps.length = h.maps.length + 1 := by
  simp [alloc]

@[simp] theorem length_write (h : Heap) (r : Ref) (k v : GoString) :
    (h.write r k v).maps.length = h.maps.length := by
  simp [write]

@[simp] theorem read_alloc_self (h : Heap) (m : GoMap GoString GoString) :
    (h.alloc m).2.read (h.alloc m).1 = m := by
  simp [alloc, read]

/-- Allocation leaves every map already allocated as it was. -/
theorem read_alloc_of_valid {h : Heap} {r : Ref} (hr : h.Valid r) (m : GoMap GoString GoString) :
    (h.alloc m).2.read r = h.read r := by
  simp only [alloc, read, List.getD_eq_getElem?_getD, List.getElem?_append_left hr]

theorem read_write_self {h : Heap} {r : Ref} (hr : h.Valid r) (k v : GoString) :
    (h.write r k v).read r = (h.read r).insert k v := by
  simp [write, read, List.getD_eq_getElem?_getD, List.getElem?_set_self hr]

@[simp] theorem valid_write (h : Heap) (r r' : Ref) (k v : GoString) : (h.write r k v).Valid r' ↔ h.Valid r' := by
  simp [Valid]

/-- A write through one reference leaves the map of every other reference as it was. -/
theorem read_write_ne (h : Heap) {r r' : Ref} (hne : r ≠ r') (k v : GoString) :
    (h.write r k v).read r' = h.read r' := by
  have : r.addr ≠ r'.addr := fun e => hne (by cases r; cases r'; simp_all)
  simp [write, read, List.getD_eq_getElem?_getD, List.getElem?_set_ne this]

theorem valid_alloc_self (h : Heap) (m : GoMap GoString GoString) : (h.alloc m).2.Valid (h.alloc m).1 := by
  simp [alloc, Valid]

/-- `h'` is `h` with maps added and only maps added since written to: every map of
`h` reads as it did. -/
def Extends (h h' : Heap) : Prop := h.maps.length ≤ h'.maps.length ∧ ∀ r, h.Valid r → h'.read r = h.read r

theorem Extends.refl (h : Heap) : h.Extends h := ⟨le_rfl, fun _ _ => rfl⟩

theorem Extends.trans {h₁ h₂ h₃ : Heap} (h12 : h₁.Extends h₂) (h23 : h₂.Extends h₃) : h₁.Extends h₃ :=
  ⟨h12.1.trans h23.1, fun r hr => (h23.2 r (Nat.lt_of_lt_of_le hr h12.1)).trans (h12.2 r hr)⟩

theorem Extends.valid {h h' : Heap} (he : h.Extends h') {r : Ref} (hr : h.Valid r) : h'.Valid r :=
  Nat.lt_of_lt_of_le hr he.1

theorem extends_alloc (h : Heap) (m : GoMap GoString GoString) : h.Extends (h.alloc m).2 :=
  ⟨by rw [length_alloc]; omega, fun _ hr => read_alloc_of_valid hr m⟩

/-- A write to a map allocated after `h` leaves `h`'s maps as they were. -/
theorem Extends.write {h h' : Heap} (he : h.Extends h') {r : Ref} (hr : ¬h.Valid r) (k v : GoString) :
    h.Extends (h'.write r k v) :=
  ⟨by rw [length_write]; exact he.1, fun r' hr' => by
    have hne : r ≠ r' := fun e => hr (e ▸ hr')
    rw [read_write_ne _ hne, he.2 r' hr']⟩

/-- `for k, v := range src { m[k] = v }` through the reference `dst`. -/
def writeAll (h : Heap) (dst : Ref) (es : List (Sigma fun _ : GoString => GoString)) : Heap :=
  es.foldl (fun h e => h.write dst e.1 e.2) h

theorem read_writeAll_self {h : Heap} {dst : Ref} (hd : h.Valid dst) :
    ∀ es, (h.writeAll dst es).read dst = es.foldl (fun m e => m.insert e.1 e.2) (h.read dst) := by
  intro es
  induction es generalizing h with
  | nil => rfl
  | cons e es ih =>
    have hd' : (h.write dst e.1 e.2).Valid dst := by simpa [Valid] using hd
    simp only [writeAll, List.foldl_cons] at ih ⊢
    rw [ih hd', read_write_self hd]

theorem Extends.writeAll {h h' : Heap} (he : h.Extends h') {dst : Ref} (hd : ¬h.Valid dst) :
    ∀ es, h.Extends (h'.writeAll dst es) := by
  intro es
  induction es generalizing h' with
  | nil => exact he
  | cons e es ih => exact ih (he.write hd e.1 e.2)

theorem length_writeAll (h : Heap) (dst : Ref) :
    ∀ es, (h.writeAll dst es).maps.length = h.maps.length := by
  intro es
  induction es generalizing h with
  | nil => rfl
  | cons e es ih => simp only [Heap.writeAll, List.foldl_cons] at ih ⊢; rw [ih, length_write]

end Heap

end Gotilert.Go
