/-
The **Go string layer**: the parts of `unicode/utf8`, `unicode`, `strings` and
`strconv` that the gotilert code calls, over Go's own representation of a string.

## Why bytes

A Go `string` is a sequence of bytes that need not be valid UTF-8, and two places
in the code slice one by byte offset: `extractToken` drops the seven bytes of
`"bearer "`, and `pickSummary` keeps the first 120 bytes of a message. The second
can cut a rune in half. A model over Lean's `String` could not even write that
result down, so a `GoString` here is a `List UInt8`, and every Unicode-aware
function decodes it the way Go does.

## Decoding

`decodeRune` is `utf8.DecodeRune`: the `first` table with its accept ranges, and a
byte that starts no valid sequence read as `RuneError` of width one. `runes` is the
`for range` loop over a string, and keeps with each rune the bytes it spans, so the
functions built on it (`trimSpace`, `toLower`) can return slices of their input as
Go's do. A rune is its code point as a natural number: the tables below compare and
shift code points and never need `Char`'s validity proof.

## Lower case

`unicode.ToLower` maps ASCII itself and looks every other rune up in the
`CaseRanges` table of the Unicode version Go ships. That table is not part of this
repository; `LowerCaseTable` takes it as a parameter and records the one property of
it that any proof here uses: the only runes above ASCII whose lower case is ASCII
are U+0130 (to `i`) and U+212A, the Kelvin sign (to `k`).
-/
import Mathlib.Data.List.Infix
import Mathlib.Data.List.DropRight
import Mathlib.Data.Nat.Digits

set_option autoImplicit false

namespace Gotilert.Go

/-- A Go `string`: its bytes. -/
abbrev GoString := List UInt8

/-! ## `unicode/utf8` -/

/-- `utf8.RuneError`, U+FFFD. -/
def runeError : Nat := 0xFFFD

/-- `utf8.RuneSelf`: runes below it are single bytes. -/
def runeSelf : Nat := 0x80

/-- A rune as `for range` reads it: the code point, and the bytes of the string it
spans. A byte that starts no valid sequence is `runeError` spanning that byte. -/
structure DecodedRune where
  rune : Nat
  bytes : GoString
  deriving DecidableEq, Repr

/-- The rune Go reports for a byte that starts no valid sequence. -/
def invalidByte (b : UInt8) : DecodedRune := ⟨runeError, [b]⟩

/-- `lo ≤ b ≤ hi`, the accept-range test of `DecodeRune`. -/
def inRange (lo hi : Nat) (b : UInt8) : Prop := lo ≤ b.toNat ∧ b.toNat ≤ hi

instance (lo hi : Nat) (b : UInt8) : Decidable (inRange lo hi b) :=
  inferInstanceAs (Decidable (_ ∧ _))

/-- Go's `first` table read through `acceptRanges`: for a byte that can lead a
multi-byte sequence, the length of the sequence and the range its second byte must
fall in. The ranges at `E0`, `ED`, `F0` and `F4` exclude overlong forms, surrogates
and code points past U+10FFFF. -/
def leadInfo (b : UInt8) : Option (Nat × Nat × Nat) :=
  let n := b.toNat
  if 0xC2 ≤ n ∧ n ≤ 0xDF then some (2, 0x80, 0xBF)
  else if n = 0xE0 then some (3, 0xA0, 0xBF)
  else if 0xE1 ≤ n ∧ n ≤ 0xEC then some (3, 0x80, 0xBF)
  else if n = 0xED then some (3, 0x80, 0x9F)
  else if 0xEE ≤ n ∧ n ≤ 0xEF then some (3, 0x80, 0xBF)
  else if n = 0xF0 then some (4, 0x90, 0xBF)
  else if 0xF1 ≤ n ∧ n ≤ 0xF3 then some (4, 0x80, 0xBF)
  else if n = 0xF4 then some (4, 0x80, 0x8F)
  else none

/-- `utf8.DecodeRune`: the first rune of `p` and the bytes after it. The masks
`mask2`, `mask3`, `mask4` and `maskx` are written as remainders. A sequence that is
too short or has a byte out of range decodes as `RuneError` of width one. -/
def decodeRune : GoString → DecodedRune × GoString
  | [] => (⟨runeError, []⟩, [])
  | p0 :: p =>
    if p0.toNat < runeSelf then (⟨p0.toNat, [p0]⟩, p) else
    match leadInfo p0, p with
    | some (2, lo, hi), b1 :: rest =>
      if inRange lo hi b1 then
        (⟨p0.toNat % 32 * 64 + b1.toNat % 64, [p0, b1]⟩, rest)
      else (invalidByte p0, p)
    | some (3, lo, hi), b1 :: b2 :: rest =>
      if inRange lo hi b1 ∧ inRange 0x80 0xBF b2 then
        (⟨p0.toNat % 16 * 4096 + b1.toNat % 64 * 64 + b2.toNat % 64, [p0, b1, b2]⟩, rest)
      else (invalidByte p0, p)
    | some (4, lo, hi), b1 :: b2 :: b3 :: rest =>
      if inRange lo hi b1 ∧ inRange 0x80 0xBF b2 ∧ inRange 0x80 0xBF b3 then
        (⟨p0.toNat % 8 * 262144 + b1.toNat % 64 * 4096 + b2.toNat % 64 * 64 + b3.toNat % 64,
          [p0, b1, b2, b3]⟩, rest)
      else (invalidByte p0, p)
    | _, _ => (invalidByte p0, p)

/-- The loop of `for range s`, with `fuel` bounding its iterations. -/
def runesAux : Nat → GoString → List DecodedRune
  | 0, _ => []
  | _ + 1, [] => []
  | fuel + 1, p0 :: p => (decodeRune (p0 :: p)).1 :: runesAux fuel (decodeRune (p0 :: p)).2

/-- The runes `for range s` visits, in order. Every step consumes at least one byte,
so `s.length` iterations suffice (`runes_cons`). -/
def runes (s : GoString) : List DecodedRune := runesAux s.length s

/-- `utf8.AppendRune` (`EncodeRune`): the UTF-8 bytes of a rune, and those of
`RuneError` for a surrogate or a code point past U+10FFFF. -/
def encodeRune (r : Nat) : GoString :=
  if r ≤ 0x7F then [r.toUInt8]
  else if r ≤ 0x7FF then [(0xC0 + r / 64).toUInt8, (0x80 + r % 64).toUInt8]
  else if 0x10FFFF < r ∨ (0xD800 ≤ r ∧ r ≤ 0xDFFF) then [0xEF, 0xBF, 0xBD]
  else if r ≤ 0xFFFF then
    [(0xE0 + r / 4096).toUInt8, (0x80 + r / 64 % 64).toUInt8, (0x80 + r % 64).toUInt8]
  else
    [(0xF0 + r / 262144).toUInt8, (0x80 + r / 4096 % 64).toUInt8,
      (0x80 + r / 64 % 64).toUInt8, (0x80 + r % 64).toUInt8]

/-- A string literal of the source, as the bytes Go stores for it. -/
def lit (s : String) : GoString := s.data.flatMap fun c => encodeRune c.toNat

/-- `utf8.ValidString`: no byte of `s` decodes as an invalid one. -/
def ValidString (s : GoString) : Prop := ∀ r ∈ runes s, r.bytes.length = 1 → r.rune < runeSelf

instance : DecidablePred ValidString := fun s =>
  inferInstanceAs (Decidable (∀ r ∈ runes s, r.bytes.length = 1 → r.rune < runeSelf))

/-! ## `unicode` -/

/-- `unicode.IsSpace`: the Latin-1 spaces, then the `White_Space` property. -/
def isSpace (r : Nat) : Bool :=
  if r ≤ 0xFF then
    r = 0x09 || r = 0x0A || r = 0x0B || r = 0x0C || r = 0x0D || r = 0x20 || r = 0x85 || r = 0xA0
  else
    r = 0x1680 || (0x2000 ≤ r && r ≤ 0x200A) || r = 0x2028 || r = 0x2029 || r = 0x202F ||
      r = 0x205F || r = 0x3000

/-- The ASCII branch of `unicode.ToLower`. -/
def asciiLower (r : Nat) : Nat := if 'A'.toNat ≤ r ∧ r ≤ 'Z'.toNat then r + 32 else r

/-- `unicode.To(unicode.LowerCase, r)` for runes above ASCII: the `CaseRanges` lookup,
with the one fact of the Unicode tables the proofs use. -/
structure LowerCaseTable where
  lower : Nat → Nat
  ascii_image : ∀ r, runeSelf ≤ r → lower r < runeSelf → lower r = 'i'.toNat ∨ lower r = 'k'.toNat

/-- `unicode.ToLower`. -/
def toLowerRune (t : LowerCaseTable) (r : Nat) : Nat :=
  if r < runeSelf then asciiLower r else t.lower r

/-- A lower-case table that changes no rune above ASCII. -/
def asciiOnlyLowerCase : LowerCaseTable := ⟨id, fun _ hr hl => absurd hl (not_lt.mpr hr)⟩

/-! ## `strings` and `strconv` -/

/-- `strings.TrimSpace`: `s` without its leading and trailing space runes. What is
left is a slice of `s`, as in Go. -/
def trimSpace (s : GoString) : GoString :=
  (((runes s).dropWhile fun r => isSpace r.rune).rdropWhile fun r => isSpace r.rune).flatMap
    DecodedRune.bytes

/-- `strings.ToLower`, which is `strings.Map(unicode.ToLower, s)`: an invalid byte
comes out as `RuneError`. -/
def toLower (t : LowerCaseTable) (s : GoString) : GoString :=
  (runes s).flatMap fun r => encodeRune (toLowerRune t r.rune)

/-- `strings.HasPrefix`. -/
def hasPrefix (s pre : GoString) : Bool := pre.isPrefixOf s

/-- `strconv.FormatUint(n, 10)`. -/
def formatUint (n : Nat) : GoString :=
  if n = 0 then lit "0" else (Nat.digits 10 n).reverse.map fun d => (0x30 + d).toUInt8

/-- `strconv.Itoa`. -/
def itoa (i : Int) : GoString :=
  if i < 0 then lit "-" ++ formatUint i.natAbs else formatUint i.toNat

/-! ## Decoding, one rune at a time

`decodeRune_of_runeSelf_le` says once what a step from a byte above ASCII can do;
`decodeRune_span` and `runeSelf_le_decodeRune`, derived from it, say all that later
proofs use of a single decoding step, and `runes_cons` unfolds the loop by one step. -/

theorem toNat_toUInt8 {n : Nat} (h : n < 256) : n.toUInt8.toNat = n := UInt8.toNat_ofNat_of_lt h

theorem eq_toUInt8_iff {n : Nat} (h : n < 256) {x : UInt8} : x = n.toUInt8 ↔ n = x.toNat :=
  ⟨fun e => by rw [e, toNat_toUInt8 h], fun e => UInt8.toNat.inj (by rw [toNat_toUInt8 h, e])⟩

theorem asciiLower_eq (r : Nat) : asciiLower r = if 65 ≤ r ∧ r ≤ 90 then r + 32 else r := rfl

/-- What `leadInfo` promises about a lead byte and the accept range of the byte after it. -/
theorem leadInfo_spec {b : UInt8} {n lo hi : Nat} (h : leadInfo b = some (n, lo, hi)) :
    0xC2 ≤ b.toNat ∧ b.toNat ≤ 0xF4 ∧ 0x80 ≤ lo ∧ hi ≤ 0xBF ∧
      (n = 2 ∧ b.toNat ≤ 0xDF ∨ n = 3 ∧ 0xE0 ≤ b.toNat ∧ b.toNat ≤ 0xEF ∧ (b.toNat = 0xE0 → 0xA0 ≤ lo) ∨
        n = 4 ∧ 0xF0 ≤ b.toNat ∧ (b.toNat = 0xF0 → 0x90 ≤ lo)) := by
  simp only [leadInfo, ite_eq_iff, Option.some.injEq, Prod.mk.injEq, reduceCtorEq, and_false, or_false] at h
  repeat' rcases h with ⟨hb, rfl, rfl, rfl⟩ | ⟨-, h⟩
  all_goals omega

theorem decodeRune_ascii {p0 : UInt8} (p : GoString) (h : p0.toNat < runeSelf) :
    decodeRune (p0 :: p) = (⟨p0.toNat, [p0]⟩, p) :=
  if_pos h

/-- What one decoding step from a byte above ASCII can do: reject that byte alone, or
read it and the bytes `bs` after it as one rune worth at least `runeSelf`. -/
theorem decodeRune_of_runeSelf_le {p0 : UInt8} (p : GoString) (h : runeSelf ≤ p0.toNat) :
    decodeRune (p0 :: p) = (invalidByte p0, p) ∨
      ∃ r bs rest, decodeRune (p0 :: p) = (r, rest) ∧ r.bytes = p0 :: bs ∧ p = bs ++ rest ∧
        runeSelf ≤ r.rune := by
  rw [show decodeRune (p0 :: p) = _ from if_neg (Nat.not_lt.mpr h)]
  split <;> (try split) <;> first
    | exact .inl rfl
    | refine .inr ⟨_, _, _, rfl, rfl, rfl, ?_⟩
      rename_i hl _
      have := leadInfo_spec hl
      simp only [inRange, runeSelf] at *
      omega

/-- A decoding step splits the string: the rune's bytes, then the rest. -/
theorem decodeRune_span (p0 : UInt8) (p : GoString) :
    (decodeRune (p0 :: p)).1.bytes ++ (decodeRune (p0 :: p)).2 = p0 :: p := by
  by_cases ha : p0.toNat < runeSelf
  · rw [decodeRune_ascii p ha]
    rfl
  · rcases decodeRune_of_runeSelf_le p (Nat.not_lt.mp ha) with h | ⟨r, bs, rest, h, hb, rfl, -⟩ <;> rw [h]
    · rfl
    · rw [hb, List.cons_append]

/-- A string that does not start with an ASCII byte does not start with an ASCII rune:
what decodes there is `RuneError` or a sequence worth at least `runeSelf`. -/
theorem runeSelf_le_decodeRune {p0 : UInt8} (p : GoString) (h : runeSelf ≤ p0.toNat) :
    runeSelf ≤ (decodeRune (p0 :: p)).1.rune := by
  rcases decodeRune_of_runeSelf_le p h with hd | ⟨r, bs, rest, hd, -, -, hr⟩ <;> rw [hd]
  · exact (by decide : runeSelf ≤ runeError)
  · exact hr

theorem decodeRune_bytes_ne_nil (p0 : UInt8) (p : GoString) : (decodeRune (p0 :: p)).1.bytes ≠ [] := by
  by_cases ha : p0.toNat < runeSelf
  · simp [decodeRune_ascii p ha]
  · rcases decodeRune_of_runeSelf_le p (Nat.not_lt.mp ha) with h | ⟨r, bs, rest, h, hb, -, -⟩ <;> rw [h]
    · simp [invalidByte]
    · simp [hb]

theorem decodeRune_rest_length (p0 : UInt8) (p : GoString) :
    (decodeRune (p0 :: p)).2.length ≤ p.length := by
  have h := congrArg List.length (decodeRune_span p0 p)
  have := List.length_pos.mpr (decodeRune_bytes_ne_nil p0 p)
  simp only [List.length_append, List.length_cons] at h
  omega

/-- A valid sequence decodes the same whatever follows it: a rune other than an invalid
byte is read from its own bytes alone. -/
theorem decodeRune_bytes_append (p0 : UInt8) (p z : GoString)
    (h : (decodeRune (p0 :: p)).1 ≠ invalidByte p0) :
    decodeRune ((decodeRune (p0 :: p)).1.bytes ++ z) = ((decodeRune (p0 :: p)).1, z) := by
  by_cases ha : p0.toNat < runeSelf
  · rw [decodeRune_ascii p ha]
    exact decodeRune_ascii z ha
  · have hlead (q : GoString) : decodeRune (p0 :: q) = _ := if_neg ha
    revert h
    rw [hlead p]
    split <;> (try split) <;> intro h
    all_goals first
      | exact absurd rfl h
      | simp only [List.cons_append, List.nil_append, hlead, *, and_self, if_true]

theorem runesAux_congr : ∀ (n m : Nat) (s : GoString), s.length ≤ n → s.length ≤ m →
    runesAux n s = runesAux m s
  | 0, m, [], _, _ => by cases m <;> rfl
  | n + 1, m, [], _, _ => by cases m <;> rfl
  | n + 1, m + 1, p0 :: p, hn, hm => by
    have := decodeRune_rest_length p0 p
    simp only [runesAux, List.length_cons] at hn hm ⊢
    rw [runesAux_congr n m _ (by omega) (by omega)]

@[simp] theorem runes_nil : runes [] = [] := rfl

/-- The `for range` loop, one iteration unfolded. -/
theorem runes_cons (p0 : UInt8) (p : GoString) :
    runes (p0 :: p) = (decodeRune (p0 :: p)).1 :: runes (decodeRune (p0 :: p)).2 := by
  have := decodeRune_rest_length p0 p
  simp only [runes, List.length_cons, runesAux]
  rw [runesAux_congr _ _ _ (by omega) le_rfl]

/-- The runes of a string tile it: their bytes, in order, are the string. -/
theorem flatMap_bytes_runes : ∀ s : GoString, (runes s).flatMap DecodedRune.bytes = s
  | [] => rfl
  | p0 :: p => by
    have := decodeRune_rest_length p0 p
    rw [runes_cons, List.flatMap_cons, flatMap_bytes_runes (decodeRune (p0 :: p)).2, decodeRune_span]
termination_by s => s.length
decreasing_by simp only [List.length_cons]; omega

/-- The runes of an ASCII string are its bytes. -/
theorem runes_of_ascii : ∀ s : GoString, (∀ b ∈ s, b.toNat < runeSelf) →
    runes s = s.map fun b => ⟨b.toNat, [b]⟩
  | [], _ => rfl
  | b :: s, h => by
    rw [runes_cons, decodeRune_ascii s (h b (List.mem_cons_self _ _)),
      runes_of_ascii s fun x hx => h x (List.mem_cons_of_mem _ hx), List.map_cons]

/-- A string whose runes start with `r`, written as `r`'s bytes then `w`: the first
decoding step reads exactly `r` and leaves `w`, whose runes are the others. -/
theorem decodeRune_of_runes_eq_cons {r : DecodedRune} {w : GoString} {L : List DecodedRune}
    (h : runes (r.bytes ++ w) = r :: L) :
    ∃ q0 q, r.bytes ++ w = q0 :: q ∧ decodeRune (q0 :: q) = (r, w) ∧ runes w = L := by
  cases hw : r.bytes ++ w with
  | nil => rw [hw, runes_nil] at h; cases h
  | cons q0 q =>
    rw [hw, runes_cons, List.cons.injEq] at h
    have hrest : (decodeRune (q0 :: q)).2 = w := by
      have hs := decodeRune_span q0 q
      rw [h.1] at hs
      exact List.append_cancel_left (hs.trans hw.symm)
    exact ⟨q0, q, rfl, Prod.ext h.1 hrest, hrest ▸ h.2⟩

/-- Decoding goes on from a rune boundary: after runes `P` read from the start of a
string, the runes of the rest are the rest of the runes. -/
theorem runes_of_runes_append : ∀ {P L : List DecodedRune} {x : GoString},
    runes (P.flatMap DecodedRune.bytes ++ x) = P ++ L → runes x = L
  | [], _, _, h => h
  | r :: P, L, x, h => by
    rw [List.flatMap_cons, List.append_assoc, List.cons_append] at h
    obtain ⟨-, -, -, -, hw⟩ := decodeRune_of_runes_eq_cons h
    exact runes_of_runes_append hw

/-- Cutting a string at a rune boundary keeps the runes before the cut: a valid rune
needs only its own bytes (`decodeRune_bytes_append`), and a byte that is invalid with
more bytes after it is invalid with fewer. -/
theorem runes_flatMap_of_append : ∀ {T U : List DecodedRune} {y : GoString},
    runes (T.flatMap DecodedRune.bytes ++ y) = T ++ U → runes (T.flatMap DecodedRune.bytes) = T
  | [], _, _, _ => rfl
  | r :: T, U, y, h => by
    rw [List.flatMap_cons, List.append_assoc, List.cons_append] at h
    obtain ⟨q0, q, hq, hd, hw⟩ := decodeRune_of_runes_eq_cons h
    have ih := runes_flatMap_of_append hw
    -- the first rune read from the cut string
    obtain ⟨b, bs, hb⟩ : ∃ b bs, r.bytes = b :: bs := by
      have := decodeRune_bytes_ne_nil q0 q
      rw [hd] at this
      exact List.exists_cons_of_ne_nil this
    obtain ⟨rfl, -⟩ : b = q0 ∧ _ := by rwa [hb, List.cons_append, List.cons.injEq] at hq
    have hcut : decodeRune (r.bytes ++ T.flatMap DecodedRune.bytes) = (r, T.flatMap DecodedRune.bytes) := by
      by_cases hv : r = invalidByte b
      · have hbs : r.bytes = [b] := by rw [hv]; rfl
        rw [hbs, List.singleton_append]
        have hs := decodeRune_span b (T.flatMap DecodedRune.bytes)
        by_cases hu : (decodeRune (b :: T.flatMap DecodedRune.bytes)).1 = invalidByte b
        · rw [hu] at hs
          exact Prod.ext (hu.trans hv.symm) (List.cons.inj hs).2
        · have happ := decodeRune_bytes_append b _ ((decodeRune (b :: T.flatMap DecodedRune.bytes)).2 ++ y) hu
          rw [← List.append_assoc, hs, List.cons_append, ← List.singleton_append, ← hbs, hq, hd] at happ
          exact absurd ((congrArg Prod.fst happ).symm.trans hv) hu
      · have happ := decodeRune_bytes_append b q (T.flatMap DecodedRune.bytes)
        rw [hd] at happ
        exact happ hv
    rw [List.flatMap_cons, hb, List.cons_append, runes_cons, ← List.cons_append, ← hb, hcut, ih]

@[simp] theorem trimSpace_nil : trimSpace [] = [] := rfl

/-- A string with no space rune is its own `TrimSpace`. -/
theorem trimSpace_eq_self {s : GoString} (h : ∀ r ∈ runes s, isSpace r.rune = false) :
    trimSpace s = s := by
  have hd : (runes s).dropWhile (fun r => isSpace r.rune) = runes s :=
    List.dropWhile_eq_self_iff.mpr fun hl => by simpa using h _ (List.getElem_mem hl)
  have hr : (runes s).rdropWhile (fun r => isSpace r.rune) = runes s :=
    List.rdropWhile_eq_self_iff.mpr fun hl => by simp [h _ (List.getLast_mem hl)]
  rw [trimSpace, hd, hr, flatMap_bytes_runes]

/-- Dropping from the back what was kept after dropping from the front leaves the front
alone: the kept part still starts with an element `p` rejects. -/
theorem dropWhile_rdropWhile_dropWhile {α : Type} (p : α → Bool) (l : List α) :
    ((l.dropWhile p).rdropWhile p).dropWhile p = (l.dropWhile p).rdropWhile p := by
  obtain ⟨U, hU⟩ := List.rdropWhile_prefix (l := l.dropWhile p) (p := p)
  have hDD := List.dropWhile_idempotent (p := p) (l := l)
  generalize (l.dropWhile p).rdropWhile p = T at hU ⊢
  generalize l.dropWhile p = D at hU hDD
  subst hU
  cases T with
  | nil => rfl
  | cons t T =>
    rw [List.cons_append, List.dropWhile_cons] at hDD
    rw [List.dropWhile_cons]
    split_ifs at hDD ⊢
    · have := congrArg List.length hDD
      have := (List.dropWhile_suffix p (l := T ++ U)).length_le
      simp only [List.length_cons, List.length_append] at *
      omega
    · rfl

/-- The runes between two rune boundaries read back as themselves. -/
theorem runes_flatMap_middle {s : GoString} {P T U : List DecodedRune} (h : runes s = P ++ (T ++ U)) :
    runes (T.flatMap DecodedRune.bytes) = T := by
  have hs := flatMap_bytes_runes s
  rw [h, List.flatMap_append, List.flatMap_append] at hs
  rw [← hs] at h
  exact runes_flatMap_of_append (runes_of_runes_append h)

/-- **`strings.TrimSpace` is idempotent.** What it keeps starts and ends with a rune that
is not a space, and its bytes read back as the same runes (`runes_flatMap_middle`). -/
theorem trimSpace_trimSpace (s : GoString) : trimSpace (trimSpace s) = trimSpace s := by
  obtain ⟨U, hU⟩ := List.rdropWhile_prefix (l := (runes s).dropWhile fun r => isSpace r.rune)
    (p := fun r => isSpace r.rune)
  have hR := (List.takeWhile_append_dropWhile (fun r : DecodedRune => isSpace r.rune) (runes s)).symm
  rw [← hU] at hR
  unfold trimSpace
  rw [runes_flatMap_middle hR, dropWhile_rdropWhile_dropWhile, List.rdropWhile_idempotent]

/-! ## Encoding -/

theorem encodeRune_ascii {r : Nat} (h : r < runeSelf) : encodeRune r = [r.toUInt8] := by
  simp only [runeSelf] at h
  simp only [encodeRune, if_pos (show r ≤ 0x7F by omega)]

/-- The encoding of a rune above ASCII starts with a byte above ASCII. -/
theorem encodeRune_head {r : Nat} (h : runeSelf ≤ r) :
    ∃ b bs, encodeRune r = b :: bs ∧ runeSelf ≤ b.toNat := by
  simp only [runeSelf] at h
  simp only [encodeRune, if_neg (show ¬r ≤ 0x7F by omega)]
  split_ifs with h1 h2 h3 <;> refine ⟨_, _, rfl, ?_⟩
  · rw [toNat_toUInt8 (by omega)]; simp only [runeSelf]; omega
  · decide
  · rw [toNat_toUInt8 (by omega)]; simp only [runeSelf]; omega
  · rw [toNat_toUInt8 (by omega)]; simp only [runeSelf]; omega

/-! ## Lower case -/

@[simp] theorem toLower_nil (t : LowerCaseTable) : toLower t [] = [] := rfl

theorem toLower_cons (t : LowerCaseTable) (p0 : UInt8) (p : GoString) :
    toLower t (p0 :: p) = encodeRune (toLowerRune t (decodeRune (p0 :: p)).1.rune) ++
      toLower t (decodeRune (p0 :: p)).2 := by
  rw [toLower, runes_cons, List.flatMap_cons, ← toLower]

theorem toLower_ascii_cons (t : LowerCaseTable) {p0 : UInt8} (p : GoString)
    (h : p0.toNat < runeSelf) :
    toLower t (p0 :: p) = (asciiLower p0.toNat).toUInt8 :: toLower t p := by
  have : asciiLower p0.toNat < runeSelf := by
    simp only [asciiLower_eq, runeSelf] at h ⊢; split_ifs <;> omega
  rw [toLower_cons, decodeRune_ascii p h, toLowerRune, if_pos h, encodeRune_ascii this]
  rfl

/-- `strings.ToLower` of an ASCII string folds each byte on its own, whatever the table. -/
theorem toLower_of_ascii (t : LowerCaseTable) : ∀ s : GoString, (∀ b ∈ s, b.toNat < runeSelf) →
    toLower t s = s.map fun b => (asciiLower b.toNat).toUInt8
  | [], _ => rfl
  | b :: s, h => by
    rw [toLower_ascii_cons t s (h b (List.mem_cons_self _ _)),
      toLower_of_ascii t s fun x hx => h x (List.mem_cons_of_mem _ hx), List.map_cons]

/-- A string whose first byte is above ASCII lower-cases to one that does not start with
an ASCII byte other than `i` or `k`: its first rune is above ASCII, and so is the lower
case of every such rune but U+0130 and the Kelvin sign. -/
theorem toLower_head_of_non_ascii (t : LowerCaseTable) {p0 : UInt8} (p : GoString)
    (h : runeSelf ≤ p0.toNat) {x : UInt8} {rest : GoString}
    (hx : x.toNat < runeSelf) (hi : x.toNat ≠ 'i'.toNat) (hk : x.toNat ≠ 'k'.toNat) :
    ¬ (x :: rest).isPrefixOf (toLower t (p0 :: p)) := by
  have hr := runeSelf_le_decodeRune p h
  rw [toLower_cons, toLowerRune, if_neg (Nat.not_lt.mpr hr)]
  by_cases hl : runeSelf ≤ t.lower (decodeRune (p0 :: p)).1.rune
  · obtain ⟨b, bs, he, hb⟩ := encodeRune_head hl
    rw [he, List.cons_append, List.isPrefixOf_cons₂]
    simp only [Bool.and_eq_true, beq_iff_eq, not_and]
    rintro rfl
    omega
  · rcases t.ascii_image _ hr (Nat.not_le.mp hl) with he | he <;>
    · rw [he, encodeRune_ascii (by simp only [runeSelf]; decide), List.singleton_append,
        List.isPrefixOf_cons₂]
      simp only [Bool.and_eq_true, beq_iff_eq, not_and]
      rintro rfl
      simp only [toNat_toUInt8 (show 'i'.toNat < 256 by decide),
        toNat_toUInt8 (show 'k'.toNat < 256 by decide)] at hi hk
      exact absurd rfl (by assumption)

/-- **Case-insensitive prefixes survive `strings.ToLower`.** For a prefix of ASCII bytes
without `i` or `k`, the lower case of `s` starts with it exactly when the first bytes of
`s`, each folded to ASCII lower case, spell it. So the prefix of `s` is made of ASCII
bytes, one per byte of the prefix, whatever Unicode follows. -/
theorem isPrefixOf_toLower_iff (t : LowerCaseTable) :
    ∀ (pre s : GoString), (∀ x ∈ pre, x.toNat < runeSelf ∧ x.toNat ≠ 'i'.toNat ∧ x.toNat ≠ 'k'.toNat) →
      (pre.isPrefixOf (toLower t s) ↔ (s.take pre.length).map (fun b => asciiLower b.toNat) = pre.map UInt8.toNat)
  | [], s, _ => by simp
  | x :: pre, [], _ => by simp
  | x :: pre, p0 :: p, hpre => by
    have hx := hpre x (List.mem_cons_self _ _)
    have ih := isPrefixOf_toLower_iff t pre p fun y hy => hpre y (List.mem_cons_of_mem _ hy)
    simp only [List.length_cons, List.take_succ_cons, List.map_cons, List.cons.injEq]
    by_cases h : p0.toNat < runeSelf
    · have hlow : asciiLower p0.toNat < 256 := by
        simp only [asciiLower_eq, runeSelf] at h ⊢; split_ifs <;> omega
      rw [toLower_ascii_cons t p h, List.isPrefixOf_cons₂, Bool.and_eq_true, beq_iff_eq, ih]
      exact and_congr_left' (eq_toUInt8_iff hlow)
    · have hge := Nat.not_lt.mp h
      refine iff_of_false (toLower_head_of_non_ascii t p hge hx.1 hx.2.1 hx.2.2) fun e => ?_
      simp only [asciiLower_eq, runeSelf] at e hge hx
      split_ifs at e <;> omega

/-! ## Decimal formatting -/

/-- Reading the digits `formatUint` writes gives the number back. -/
theorem ofDigits_formatUint (n : Nat) :
    Nat.ofDigits 10 ((formatUint n).reverse.map fun b => b.toNat - 0x30) = n := by
  unfold formatUint
  split_ifs with hn
  · subst hn; rfl
  · have hdig : ∀ d ∈ Nat.digits 10 n, ((fun b : UInt8 => b.toNat - 0x30) ∘ fun d => (0x30 + d).toUInt8) d = d :=
      fun d hd => by
        have := Nat.digits_lt_base (by norm_num) hd
        simp only [Function.comp, toNat_toUInt8 (show 0x30 + d < 256 by omega)]; omega
    rw [← List.map_reverse, List.reverse_reverse, List.map_map, List.map_congr_left hdig, List.map_id',
      Nat.ofDigits_digits]

/-- `FormatUint` writes at least one digit, and digits only. -/
theorem formatUint_digits (n : Nat) :
    formatUint n ≠ [] ∧ ∀ b ∈ formatUint n, 0x30 ≤ b.toNat ∧ b.toNat ≤ 0x39 := by
  unfold formatUint
  split_ifs with hn
  · decide
  · refine ⟨by simpa using Nat.digits_ne_nil_iff_ne_zero.mpr hn, ?_⟩
    simp only [List.mem_map, List.mem_reverse]
    rintro _ ⟨d, hd, rfl⟩
    have := Nat.digits_lt_base (by norm_num) hd
    rw [toNat_toUInt8 (by omega)]
    omega

/-- `Itoa` writes ASCII with no space: digits and a leading `-`. -/
theorem itoa_bytes (i : Int) : ∀ b ∈ itoa i, b.toNat < runeSelf ∧ isSpace b.toNat = false := by
  have hdig : ∀ n, ∀ b ∈ formatUint n, b.toNat < runeSelf ∧ isSpace b.toNat = false := fun n b hb => by
    have := (formatUint_digits n).2 b hb
    simp only [runeSelf, isSpace]
    split_ifs <;> simp <;> omega
  unfold itoa
  split_ifs
  · simp only [List.mem_append]
    rintro b (hb | hb)
    · revert b; decide
    · exact hdig _ b hb
  · exact hdig _

theorem itoa_ne_nil (i : Int) : itoa i ≠ [] := by
  unfold itoa
  split_ifs
  · exact List.append_ne_nil_of_left_ne_nil (by decide) _
  · exact (formatUint_digits _).1

theorem trimSpace_itoa (i : Int) : trimSpace (itoa i) = itoa i := by
  apply trimSpace_eq_self
  rw [runes_of_ascii _ fun b hb => (itoa_bytes i b hb).1]
  simp only [List.mem_map]
  rintro _ ⟨b, hb, rfl⟩
  exact (itoa_bytes i b hb).2

/-- Distinct numbers have distinct decimal forms. -/
theorem formatUint_injective : Function.Injective formatUint := fun a b h => by
  rw [← ofDigits_formatUint a, h, ofDigits_formatUint]

end Gotilert.Go
