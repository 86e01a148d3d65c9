/-
**Query strings**: what `net/url` reads and writes of
`application/x-www-form-urlencoded` text, with `url.Values` and `strings.Cut`.

## Reading

`url.ParseQuery` cuts its input at every `&`, skips an empty piece, rejects a piece
with a `;` in it, cuts any other piece at its first `=`, and unescapes both halves with
`QueryUnescape`, where `+` is a space and `%` must be followed by two hex digits. A
piece it cannot read is left out, and an error is returned beside the values of the
other pieces. `URL.Query()` keeps the values and drops the error; `Request.ParseForm`
returns the error (`Gotilert.Gotify.Request.parseForm`).

## What is proved

`queryUnescape_queryEscape`: `QueryUnescape` undoes `QueryEscape` on every string, one
byte at a time. `parseQuery_encodeQuery`: `ParseQuery` reads back every list of fields
written with escaped keys and values, with no error, and with each key's values in the
order they were written.
-/
import Gotilert.Go.Errors
import Gotilert.Go.Maps

set_option autoImplicit false

namespace Gotilert.Go

/-! ## `url.Values` -/

/-- `url.Values`, and `http.Header`: every value of a key, in order. -/
abbrev Values := GoMap GoString (List GoString)

/-- `values[key]`: the values of `key`, none when it is absent. -/
def valuesOf (values : Values) (key : GoString) : List GoString := (values.lookup key).getD []

/-- `Header.Get(key)` and `url.Values.Get(key)`: the first value, or `""`. -/
def valuesGet (values : Values) (key : GoString) : GoString :=
  match values.lookup key with
  | some (v :: _) => v
  | _ => []

/-- `url.Values.Add`: `value` after the values `key` already has. -/
def valuesAdd (values : Values) (key value : GoString) : Values :=
  values.insert key (valuesOf values key ++ [value])

/-! ## Escaping -/

/-- `ishex`. -/
def isHex (c : UInt8) : Bool :=
  (0x30 ≤ c.toNat && c.toNat ≤ 0x39) || (0x61 ≤ c.toNat && c.toNat ≤ 0x66) ||
    (0x41 ≤ c.toNat && c.toNat ≤ 0x46)

/-- `unhex`: the value of a hex digit. -/
def unhex (c : UInt8) : Nat :=
  if 0x30 ≤ c.toNat ∧ c.toNat ≤ 0x39 then c.toNat - 0x30
  else if 0x61 ≤ c.toNat ∧ c.toNat ≤ 0x66 then c.toNat - 0x61 + 10
  else if 0x41 ≤ c.toNat ∧ c.toNat ≤ 0x46 then c.toNat - 0x41 + 10
  else 0

/-- `upperhex[d]`: the upper-case hex digit of `d < 16`. -/
def upperHex (d : Nat) : UInt8 := if d < 10 then (0x30 + d).toUInt8 else (0x37 + d).toUInt8

/-- `shouldEscape(c, encodeQueryComponent)`: every byte but an ASCII letter or digit and
`-`, `_`, `.`, `~`. -/
def shouldEscape (c : UInt8) : Bool :=
  !((0x61 ≤ c.toNat && c.toNat ≤ 0x7A) || (0x41 ≤ c.toNat && c.toNat ≤ 0x5A) ||
    (0x30 ≤ c.toNat && c.toNat ≤ 0x39) || c == 0x2D || c == 0x5F || c == 0x2E || c == 0x7E)

/-- What `escape(s, encodeQueryComponent)` writes for one byte: the byte, `+` for a
space, or `%` and two upper-case hex digits. -/
def escapeByte (c : UInt8) : GoString :=
  if !shouldEscape c then [c]
  else if c = 0x20 then [0x2B]
  else [0x25, upperHex (c.toNat / 16), upperHex (c.toNat % 16)]

/-- `url.QueryEscape`. -/
def queryEscape (s : GoString) : GoString := s.flatMap escapeByte

/-- `url.QueryUnescape`, which is `unescape(s, encodeQueryComponent)`: `+` is a space,
`%` and two hex digits the byte they spell, and any other `%` an `EscapeError`. Go
checks every `%` before it writes a byte, which comes to the same. -/
def queryUnescape : GoString → Option GoString
  | [] => some []
  | c :: rest =>
    if c = 0x25 then
      match rest with
      | h :: l :: rest =>
        if isHex h && isHex l then (queryUnescape rest).map ((unhex h * 16 + unhex l).toUInt8 :: ·)
        else none
      | _ => none
    else (queryUnescape rest).map ((if c = 0x2B then 0x20 else c) :: ·)

/-! ## Reading a query -/

/-- `strings.Cut(s, sep)` for a one-byte separator: the bytes before the first `sep` and
those after it, or all of `s` and nothing. -/
def cut (s : GoString) (sep : UInt8) : GoString × GoString :=
  (s.takeWhile (· != sep), (s.dropWhile (· != sep)).drop 1)

/-- One turn of `parseQuery`'s loop, on the piece before the next `&`, with the values
and the error so far. A piece with a `;` sets the error; an empty piece is skipped; a
piece whose key or value does not unescape is skipped, and sets the error if none is
set yet. -/
def parseQueryPiece (acc : Values × Option ForeignError) (piece : GoString) :
    Values × Option ForeignError :=
  if 0x3B ∈ piece then (acc.1, some .other)
  else if piece = [] then acc
  else
    match queryUnescape (cut piece 0x3D).1, queryUnescape (cut piece 0x3D).2 with
    | some key, some value => (valuesAdd acc.1 key value, acc.2)
    | _, _ => (acc.1, acc.2.orElse fun _ => some .other)

/-- `url.ParseQuery`: the values it read, and the error it returns with them. Go's loop
cuts the query at one `&` after another; its pieces are those of `List.splitOn`, but
for an empty last piece, which the loop never reaches and `parseQueryPiece` skips. -/
def parseQuery (query : GoString) : Values × Option ForeignError :=
  (query.splitOn 0x26).foldl parseQueryPiece (∅, none)

/-- A query string holding `fields` in order, each as its escaped key, `=` and its
escaped value, joined by `&`: what `url.Values.Encode` writes, without its sort by key. -/
def encodeQuery (fields : List (GoString × GoString)) : GoString :=
  [0x26].intercalate (fields.map fun f => queryEscape f.1 ++ 0x3D :: queryEscape f.2)

/-! ## `url.Values`, read back -/

@[simp] theorem valuesOf_empty (key : GoString) : valuesOf ∅ key = [] := rfl

@[simp] theorem parseQuery_nil : parseQuery [] = (∅, none) := rfl

theorem valuesGet_eq_headD (values : Values) (key : GoString) :
    valuesGet values key = (valuesOf values key).headD [] := by
  unfold valuesGet valuesOf
  rcases values.lookup key with _ | _ | _ <;> rfl

theorem valuesOf_valuesAdd (values : Values) (key value k : GoString) :
    valuesOf (valuesAdd values key value) k =
      if k = key then valuesOf values key ++ [value] else valuesOf values k := by
  unfold valuesAdd
  conv_lhs => unfold valuesOf
  rw [lookup_insert_eq_ite]
  split_ifs <;> rfl

/-- Adding fields one by one appends each key's values in order. -/
theorem valuesOf_foldl_valuesAdd (k : GoString) :
    ∀ (fields : List (GoString × GoString)) (values : Values),
      valuesOf (fields.foldl (fun m f => valuesAdd m f.1 f.2) values) k =
        valuesOf values k ++ (fields.filter (·.1 == k)).map Prod.snd
  | [], values => by simp
  | f :: fields, values => by
    rw [List.foldl_cons, valuesOf_foldl_valuesAdd k fields, valuesOf_valuesAdd, List.filter_cons]
    by_cases hk : k = f.1
    · subst hk; simp
    · simp [hk, Ne.symm hk]

/-! ## Escaping, undone -/

theorem upperHex_spec : ∀ d < 16,
    isHex (upperHex d) = true ∧ unhex (upperHex d) = d ∧ shouldEscape (upperHex d) = false := by
  decide

/-- Every byte `QueryEscape` writes is unreserved, `+` or `%`. -/
theorem mem_escapeByte {c b : UInt8} (h : b ∈ escapeByte c) :
    shouldEscape b = false ∨ b = 0x2B ∨ b = 0x25 := by
  unfold escapeByte at h
  split_ifs at h with h1 h2
  · simp only [List.mem_singleton] at h
    subst h
    exact .inl (by simpa using h1)
  · simp [List.mem_singleton.mp h]
  · have hc : c.toNat < 256 := UInt8.toNat_lt_size c
    have hhi := (upperHex_spec (c.toNat / 16) (by omega)).2.2
    have hlo := (upperHex_spec (c.toNat % 16) (by omega)).2.2
    simp only [List.mem_cons, List.mem_singleton, List.not_mem_nil, or_false] at h
    rcases h with rfl | rfl | rfl <;> simp_all

/-- A byte that must be escaped, other than `+` and `%`, is never in `QueryEscape`'s
output: the separators `&`, `=` and `;` among them. -/
theorem not_mem_queryEscape {b : UInt8} (hb : shouldEscape b = true) (h2B : b ≠ 0x2B) (h25 : b ≠ 0x25)
    (s : GoString) : b ∉ queryEscape s := by
  simp only [queryEscape, List.mem_flatMap, not_exists, not_and]
  intro c _ hc
  rcases mem_escapeByte hc with h | h | h <;> simp_all

/-- A byte other than `%` unescapes to itself, or to a space for `+`. -/
theorem queryUnescape_cons_of_ne {c : UInt8} (h : c ≠ 0x25) (rest : GoString) :
    queryUnescape (c :: rest) = (queryUnescape rest).map ((if c = 0x2B then 0x20 else c) :: ·) := by
  match rest with
  | [] | [_] | _ :: _ :: _ => simp [queryUnescape, h]

theorem queryUnescape_escapeByte (c : UInt8) (rest : GoString) :
    queryUnescape (escapeByte c ++ rest) = (queryUnescape rest).map (c :: ·) := by
  unfold escapeByte
  split_ifs with h1 h2
  · have h25 : c ≠ 0x25 := by rintro rfl; exact absurd h1 (by decide)
    have h2B : c ≠ 0x2B := by rintro rfl; exact absurd h1 (by decide)
    rw [List.singleton_append, queryUnescape_cons_of_ne h25, if_neg h2B]
  · subst h2
    rw [List.singleton_append, queryUnescape_cons_of_ne (by decide), if_pos rfl]
  · have hlt : c.toNat < 256 := UInt8.toNat_lt_size c
    obtain ⟨hx1, hu1, -⟩ := upperHex_spec (c.toNat / 16) (by omega)
    obtain ⟨hx2, hu2, -⟩ := upperHex_spec (c.toNat % 16) (by omega)
    have hc : (c.toNat / 16 * 16 + c.toNat % 16).toUInt8 = c := by
      rw [show c.toNat / 16 * 16 + c.toNat % 16 = c.toNat by omega]
      exact UInt8.toNat.inj (toNat_toUInt8 hlt)
    rw [List.cons_append, List.cons_append, List.singleton_append, queryUnescape.eq_2, if_pos rfl]
    simp only [hx1, hx2, hu1, hu2, hc, Bool.and_self, if_true]

theorem queryUnescape_queryEscape_append (s rest : GoString) :
    queryUnescape (queryEscape s ++ rest) = (queryUnescape rest).map (s ++ ·) := by
  induction s with
  | nil => simp [queryEscape]
  | cons c s ih =>
    rw [queryEscape, List.flatMap_cons, List.append_assoc, ← queryEscape, queryUnescape_escapeByte, ih,
      Option.map_map]
    rfl

/-- **`QueryUnescape` undoes `QueryEscape`**, on every string. -/
theorem queryUnescape_queryEscape (s : GoString) : queryUnescape (queryEscape s) = some s := by
  simpa [queryUnescape] using queryUnescape_queryEscape_append s []

/-! ## Reading back a written query -/

theorem cut_append {a : GoString} {sep : UInt8} (h : sep ∉ a) (b : GoString) :
    cut (a ++ sep :: b) sep = (a, b) := by
  have ha : ∀ x ∈ a, (x != sep) = true := fun x hx => by
    simpa using fun e : x = sep => h (e ▸ hx)
  simp [cut, List.takeWhile_append_of_pos ha, List.dropWhile_append_of_pos ha]

/-- The piece `encodeQuery` writes for a field reads back as that field. -/
theorem parseQueryPiece_field (acc : Values × Option ForeignError) (k v : GoString) :
    parseQueryPiece acc (queryEscape k ++ 0x3D :: queryEscape v) = (valuesAdd acc.1 k v, acc.2) := by
  have hsemi : (0x3B : UInt8) ∉ queryEscape k ++ 0x3D :: queryEscape v := by
    simp only [List.mem_append, List.mem_cons, not_or]
    exact ⟨not_mem_queryEscape (by decide) (by decide) (by decide) k, by decide,
      not_mem_queryEscape (by decide) (by decide) (by decide) v⟩
  rw [parseQueryPiece, if_neg hsemi, if_neg (by simp),
    cut_append (not_mem_queryEscape (by decide) (by decide) (by decide) k),
    queryUnescape_queryEscape, queryUnescape_queryEscape]

theorem foldl_parseQueryPiece_fields :
    ∀ (fields : List (GoString × GoString)) (values : Values),
      fields.foldl (fun acc f => parseQueryPiece acc (queryEscape f.1 ++ 0x3D :: queryEscape f.2))
          (values, none) = (fields.foldl (fun m f => valuesAdd m f.1 f.2) values, none)
  | [], _ => rfl
  | f :: fields, values => by
    rw [List.foldl_cons, parseQueryPiece_field, List.foldl_cons]
    exact foldl_parseQueryPiece_fields fields _

/-- **`ParseQuery` reads back what is written with escaped keys and values**: for every
list of fields, each key with the values added for it in order, and no error. -/
theorem parseQuery_encodeQuery (fields : List (GoString × GoString)) :
    parseQuery (encodeQuery fields) = (fields.foldl (fun m f => valuesAdd m f.1 f.2) ∅, none) := by
  by_cases hne : fields = []
  · subst hne; rfl
  · have hamp : ∀ piece ∈ fields.map (fun f => queryEscape f.1 ++ 0x3D :: queryEscape f.2),
        (0x26 : UInt8) ∉ piece := by
      simp only [List.mem_map]
      rintro _ ⟨f, -, rfl⟩
      simp only [List.mem_append, List.mem_cons, not_or]
      exact ⟨not_mem_queryEscape (by decide) (by decide) (by decide) f.1, by decide,
        not_mem_queryEscape (by decide) (by decide) (by decide) f.2⟩
    rw [parseQuery, encodeQuery, List.splitOn_intercalate _ _ hamp (by simpa using hne), List.foldl_map]
    exact foldl_parseQueryPiece_fields fields ∅

end Gotilert.Go
