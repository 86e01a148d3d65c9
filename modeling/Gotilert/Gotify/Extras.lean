/-
**Gotify extras as annotations**: `ExtrasAnnotations` and `extrasStringAtPath`
(`internal/gotify/extras_annotations.go`).

A message's `extras` is the `map[string]any` that `encoding/json` decodes the
`extras` object into, so every value in it is `nil`, a `bool`, a `float64`, a
`string`, a `[]any` or another `map[string]any`: `JsonValue` is that tree. An object
keeps its members as a list; the decoder never repeats a key, and `lookupMember`
takes the first member with the key, which for such a list is the map index. A
`float64` is kept as its bits, which nothing here reads.

`ExtrasAnnotations` is four copies of one block, one per well-known path, so the
model is one block, `annotate`, run over the table `wellKnownExtras` of the four
paths and their annotation keys, in the order of the source.

## What is proved

`ReachesAlong` says, without `walkPath`, what walking a path means: each key indexes
a `map[string]any`, and the value of a key is the first member that has it, as
`List.lookup` reads an association list. `walkPath_eq_some_iff`: the loop of
`extrasStringAtPath` computes that relation. `lookup_extrasAnnotations`: the
annotation under each well-known key is `stringLeaf` of the node its path reaches,
and no other key is ever set. So an annotation depends on the tree only through the
nodes along its own path (`extrasAnnotations_spec`).
-/
import Gotilert.Go.Maps

set_option autoImplicit false

namespace Gotilert.Gotify

open Gotilert.Go

/-! ## Decoded JSON -/

/-- A value of type `any` as `encoding/json` decodes it. -/
inductive JsonValue where
  | null
  | bool (b : Bool)
  /-- A `float64`, by its IEEE-754 bits. -/
  | number (bits : UInt64)
  | string (s : GoString)
  | array (items : List JsonValue)
  | object (members : List (GoString × JsonValue))
  deriving Repr

/-- A `map[string]any` decoded from a JSON object. -/
abbrev JsonObject := List (GoString × JsonValue)

/-- `m[key]`, with its `ok`. -/
def lookupMember (members : JsonObject) (key : GoString) : Option JsonValue :=
  (members.find? fun m => m.1 = key).map Prod.snd

/-- The loop of `extrasStringAtPath`: each key must index a `map[string]any`. -/
def walkPath : JsonValue → List GoString → Option JsonValue
  | current, [] => some current
  | .object members, key :: path =>
    match lookupMember members key with
    | some next => walkPath next path
    | none => none
  | _, _ :: _ => none

/-- **Walking a path through a tree**: from `node`, each key of the path is looked up
in a `map[string]any`, and the walk ends at `leaf`. A key looked up anywhere else, or
missing from its map, ends the walk with no leaf. -/
inductive ReachesAlong : JsonValue → List GoString → JsonValue → Prop where
  | here (node : JsonValue) : ReachesAlong node [] node
  | member {members : JsonObject} {key : GoString} {next leaf : JsonValue} {path : List GoString}
      (hkey : members.lookup key = some next) (hrest : ReachesAlong next path leaf) :
      ReachesAlong (.object members) (key :: path) leaf

theorem lookupMember_eq_lookup : ∀ (members : JsonObject) (key : GoString),
    lookupMember members key = members.lookup key
  | [], _ => rfl
  | (k, v) :: members, key => by
    by_cases hk : k = key
    · subst hk
      simp [lookupMember, List.lookup_cons]
    · have hk' : (key == k) = false := beq_false_of_ne (Ne.symm hk)
      rw [List.lookup_cons, hk', ← lookupMember_eq_lookup members key]
      simp [lookupMember, hk]

@[simp] theorem walkPath_nil (node : JsonValue) : walkPath node [] = some node := by
  cases node <;> rfl

/-- **The loop of `extrasStringAtPath` walks the path**: it returns a node exactly
when walking the path reaches it. -/
theorem walkPath_eq_some_iff {leaf : JsonValue} :
    ∀ (node : JsonValue) (path : List GoString), walkPath node path = some leaf ↔ ReachesAlong node path leaf
  | node, [] => by
    rw [walkPath_nil]
    exact ⟨fun h => Option.some.inj h ▸ .here node, fun h => by cases h; rfl⟩
  | .object members, key :: path => by
    rw [walkPath, lookupMember_eq_lookup]
    cases hk : members.lookup key with
    | none => exact iff_of_false nofun fun h => by cases h with | member hkey _ => rw [hk] at hkey; cases hkey
    | some next =>
      rw [walkPath_eq_some_iff next path]
      exact ⟨.member hk, fun h => by cases h with | member hkey hrest => rw [hk] at hkey; cases hkey; exact hrest⟩
  | .null, _ :: _ | .bool _, _ :: _ | .number _, _ :: _ | .string _, _ :: _ | .array _, _ :: _ =>
    iff_of_false nofun nofun

/-- A walk has one end: two trees from which a path reaches the same nodes walk
it alike. -/
theorem walkPath_congr {node node' : JsonValue} {path : List GoString}
    (h : ∀ leaf, ReachesAlong node' path leaf ↔ ReachesAlong node path leaf) :
    walkPath node' path = walkPath node path :=
  Option.ext fun leaf => by simp only [Option.mem_def, walkPath_eq_some_iff, h]

/-! ## The model -/

/-- `extrasStringAtPath(extras, path...)`: the trimmed string at the end of the path,
when there is a non-blank one. -/
def extrasStringAtPath (extras : JsonObject) (path : List GoString) : Option GoString :=
  if extras.isEmpty ∨ path.isEmpty then none
  else
    match walkPath (.object extras) path with
    | some (.string s) => if trimSpace s = [] then none else some (trimSpace s)
    | _ => none

def annotationGotifyContentType : GoString := lit "gotify_content_type"
def annotationGotifyClickURL : GoString := lit "gotify_click_url"
def annotationGotifyBigImageURL : GoString := lit "gotify_big_image_url"
def annotationGotifyOnReceiveIntentURL : GoString := lit "gotify_on_receive_intent_url"

/-- The paths `extrasAnnotations` reads, each with the annotation it sets. -/
def wellKnownExtras : List (List GoString × GoString) :=
  [([lit "client::display", lit "contentType"], annotationGotifyContentType),
   ([lit "client::notification", lit "click", lit "url"], annotationGotifyClickURL),
   ([lit "client::notification", lit "bigImageUrl"], annotationGotifyBigImageURL),
   ([lit "android::action", lit "onReceive", lit "intentUrl"], annotationGotifyOnReceiveIntentURL)]

/-- One block `if v, ok := extrasStringAtPath(extras, path...); ok { annotations[key] = v }`. -/
def annotate (extras : JsonObject) (annotations : GoMap GoString GoString)
    (entry : List GoString × GoString) : GoMap GoString GoString :=
  match extrasStringAtPath extras entry.1 with
  | some value => annotations.insert entry.2 value
  | none => annotations

/-- `extrasAnnotations(extras)`; `none` is the nil map. -/
def extrasAnnotations (extras : Option JsonObject) : GoMap GoString GoString :=
  let extras := extras.getD []
  if extras.isEmpty then ∅ else wellKnownExtras.foldl (annotate extras) ∅

/-! ## What an annotation depends on -/

/-- The annotation a node gives: its trimmed text, when it is a string that is not
blank. -/
def stringLeaf : Option JsonValue → Option GoString
  | some (.string s) => if trimSpace s = [] then none else some (trimSpace s)
  | _ => none

theorem stringLeaf_eq_some {node : Option JsonValue} {v : GoString} :
    stringLeaf node = some v ↔ ∃ s, node = some (.string s) ∧ trimSpace s ≠ [] ∧ v = trimSpace s := by
  match node with
  | some (.string s) =>
    by_cases h : trimSpace s = []
    · simp [stringLeaf, h]
    · simp only [stringLeaf, if_neg h, Option.some.injEq, JsonValue.string.injEq]
      exact ⟨fun hv => ⟨s, rfl, h, hv.symm⟩, fun ⟨_, hs, _, hv⟩ => hs ▸ hv.symm⟩
  | none | some .null | some (.bool _) | some (.number _) | some (.array _) | some (.object _) =>
    simp [stringLeaf]

theorem extrasStringAtPath_eq (extras : JsonObject) {path : List GoString} (hpath : path ≠ []) :
    extrasStringAtPath extras path = stringLeaf (walkPath (.object extras) path) := by
  obtain ⟨key, path, rfl⟩ := List.exists_cons_of_ne_nil hpath
  cases extras with
  | nil => simp [extrasStringAtPath, walkPath, lookupMember, stringLeaf]
  | cons m ms =>
    simp only [extrasStringAtPath, List.isEmpty_cons, List.isEmpty_cons, Bool.false_eq_true, or_self,
      if_false]
    split <;> simp_all [stringLeaf]

theorem lookup_annotate (extras : JsonObject) (annotations : GoMap GoString GoString)
    (entry : List GoString × GoString) (k : GoString) :
    (annotate extras annotations entry).lookup k =
      if k = entry.2 then (extrasStringAtPath extras entry.1).or (annotations.lookup k)
      else annotations.lookup k := by
  unfold annotate
  split
  · next v hv =>
    by_cases hk : k = entry.2
    · rw [hk, AList.lookup_insert]; simp [hv]
    · simp [hk, hv, AList.lookup_insert_ne]
  · next hv => by_cases hk : k = entry.2 <;> simp [hk, hv]

/-- The blocks run over a table with distinct keys: a key reads the block of its own
entry, or nothing. -/
theorem lookup_foldl_annotate (extras : JsonObject) (k : GoString) :
    ∀ (tbl : List (List GoString × GoString)) (acc : GoMap GoString GoString),
      (tbl.map Prod.snd).Nodup →
      (tbl.foldl (annotate extras) acc).lookup k =
        match tbl.find? (fun e => e.2 = k) with
        | some e => (extrasStringAtPath extras e.1).or (acc.lookup k)
        | none => acc.lookup k
  | [], acc, _ => rfl
  | e :: tbl, acc, hnd => by
    rw [List.map_cons, List.nodup_cons] at hnd
    rw [List.foldl_cons, lookup_foldl_annotate extras k tbl _ hnd.2, lookup_annotate]
    by_cases he : e.2 = k
    · have hnone : tbl.find? (fun e => e.2 = k) = none := List.find?_eq_none.mpr fun e' he' h => by
        have : e'.2 = k := by simpa using h
        exact hnd.1 (he ▸ this ▸ List.mem_map_of_mem Prod.snd he')
      simp [hnone, he]
    · simp [List.find?_cons, he, Ne.symm he]

theorem wellKnownExtras_keys_nodup : (wellKnownExtras.map Prod.snd).Nodup := by decide

/-- **Each well-known key reads the node at the end of its own path**, and every other
key is unset. -/
theorem lookup_extrasAnnotations (extras : Option JsonObject) (k : GoString) :
    (extrasAnnotations extras).lookup k =
      match wellKnownExtras.find? (fun e => e.2 = k) with
      | some e => stringLeaf (walkPath (.object (extras.getD [])) e.1)
      | none => none := by
  have hpaths : ∀ e ∈ wellKnownExtras, e.1 ≠ [] := by decide
  dsimp only [extrasAnnotations]
  split_ifs with hnil
  · cases h : wellKnownExtras.find? (fun e => e.2 = k) with
    | none => rfl
    | some e =>
      rw [List.isEmpty_iff.mp hnil]
      obtain ⟨key, path, hp⟩ := List.exists_cons_of_ne_nil (hpaths e (List.mem_of_find?_eq_some h))
      simp [hp, walkPath, lookupMember, stringLeaf]
  · rw [lookup_foldl_annotate _ _ _ _ wellKnownExtras_keys_nodup]
    split
    · next e h => rw [extrasStringAtPath_eq _ (hpaths e (List.mem_of_find?_eq_some h))]; simp
    · rfl

/-- **What `extrasAnnotations` returns**, for every tree: only the four `gotify_*`
keys; under each, the trimmed string that walking its path reaches when that is not
blank, and nothing otherwise; and two trees from which the path reaches the same
nodes give the same annotation for it, whatever they hold elsewhere. -/
theorem extrasAnnotations_spec (extras : Option JsonObject) :
    (∀ k ∈ (extrasAnnotations extras).keys, k ∈ wellKnownExtras.map Prod.snd) ∧
    (∀ path key, (path, key) ∈ wellKnownExtras → ∀ v,
      (extrasAnnotations extras).lookup key = some v ↔
        ∃ s, ReachesAlong (.object (extras.getD [])) path (.string s) ∧ trimSpace s ≠ [] ∧
          v = trimSpace s) ∧
    (∀ path key, (path, key) ∈ wellKnownExtras → ∀ extras' : Option JsonObject,
      (∀ leaf, ReachesAlong (.object (extras'.getD [])) path leaf ↔
        ReachesAlong (.object (extras.getD [])) path leaf) →
        (extrasAnnotations extras').lookup key = (extrasAnnotations extras).lookup key) := by
  have hfind' : ∀ e ∈ wellKnownExtras, wellKnownExtras.find? (fun e' => e'.2 = e.2) = some e := by decide
  have hfind : ∀ path key, (path, key) ∈ wellKnownExtras →
      wellKnownExtras.find? (fun e => e.2 = key) = some (path, key) := fun path key h => hfind' _ h
  refine ⟨fun k hk => ?_, fun path key hmem v => ?_, fun path key hmem extras' hwalk => ?_⟩
  · rw [← AList.mem_keys, ← AList.lookup_isSome, lookup_extrasAnnotations] at hk
    split at hk
    · next e h =>
      have he : e.2 = k := by simpa using List.find?_some h
      exact he ▸ List.mem_map_of_mem Prod.snd (List.mem_of_find?_eq_some h)
    · simp at hk
  · simp only [lookup_extrasAnnotations, hfind path key hmem, stringLeaf_eq_some, walkPath_eq_some_iff]
  · simp only [lookup_extrasAnnotations, hfind path key hmem, walkPath_congr hwalk]

/-- A mis-shaped `client::notification` leaves the content type in place. -/
example : (extrasAnnotations (some [(lit "client::display", .object [(lit "contentType", .string (lit " md "))]),
    (lit "client::notification", .string (lit "x"))])).lookup annotationGotifyContentType = some (lit "md") ∧
    (extrasAnnotations (some [(lit "client::display", .object [(lit "contentType", .string (lit " md "))]),
    (lit "client::notification", .string (lit "x"))])).lookup annotationGotifyClickURL = none := by decide

end Gotilert.Gotify
