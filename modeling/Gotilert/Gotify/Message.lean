/-
**Message requests**: `ParseMessageRequest` of `internal/gotify`, with `parseJSON`,
`parseForm` and `validate`, and the part of `net/http` that `parseForm` runs,
`Request.ParseForm`.

A request is what the handlers read of an `*http.Request`: the method, the header (each
value by canonical name, in order), the raw query of the URL, the body, and the limit
`http.MaxBytesReader` has put on the body. Two things are Go's library and stay
parameters, bundled as a `Library`: `mime.ParseMediaType` and the JSON decoder.
`Request.ParseForm` is modelled, because it decides whether the body is read at all:
only for a POST, PUT or PATCH whose `Content-Type` is the form media type, an absent
header counting as `application/octet-stream`. It also parses the URL's query and
fails when that does not parse. `strconv.Atoi` is small and is modelled.

An error keeps what `errors.Is` and `errors.As` read of it (`Gotilert.Go.GoError`);
the text `fmt.Errorf` puts around a wrapped error is not modelled.

## What is proved

`parseMessageRequest_ok`: an accepted message has a non-blank text and a priority of
at least zero. `parseMessageRequest_json_form`: the JSON body and the URL-encoded body
of the same fields get the same outcome, for a POST, PUT or PATCH whose query parses
and names none of the fields, with a form body `ParseForm` reads whole. A query that
does not parse makes the form path fail alone. `parseMessageRequest_without_content_type`:
with no `Content-Type` the body is never read, so a URL-encoded body sent without the
header is not taken as a form.
-/
import Gotilert.Gotify.Extras
import Gotilert.Go.Url

set_option autoImplicit false

namespace Gotilert.Gotify

open Gotilert.Go

/-! ## Requests -/

/-- An `*http.Request`, as the handlers read it. -/
structure Request where
  method : GoString
  header : Values
  /-- `URL.RawQuery`: the query of the URL as the client sent it. -/
  rawQuery : GoString
  body : GoString
  /-- The limit of the `http.MaxBytesReader` wrapped around the body, if any. -/
  bodyLimit : Option Int

/-- `URL.Query()`: the values `url.ParseQuery` reads from the raw query, its error
dropped. -/
def Request.query (r : Request) : Values := (parseQuery r.rawQuery).1

/-- `r` with the body `body`, sent with `Content-Type: mediaType` (`Header.Set`). -/
def Request.sending (r : Request) (mediaType body : GoString) : Request :=
  { r with header := r.header.insert (lit "Content-Type") [mediaType], body }

/-! ## `Request.ParseForm` -/

def mediaTypeJSON : GoString := lit "application/json"
def mediaTypeForm : GoString := lit "application/x-www-form-urlencoded"
def mediaTypeOctetStream : GoString := lit "application/octet-stream"

/-- The methods whose body `ParseForm` reads. -/
def formMethods : List GoString := [lit "POST", lit "PUT", lit "PATCH"]

/-- `10 << 20`: what `parsePostForm` reads of a body with no `MaxBytesReader`. -/
def maxFormSize : Nat := 10 * 2 ^ 20

/-- Whether `parsePostForm` reads a body of `length` bytes without an error: within the
`MaxBytesReader`'s limit (a negative one counting as zero) when there is one, else
within `maxFormSize`. -/
def bodyFits (bodyLimit : Option Int) (length : Nat) : Bool :=
  match bodyLimit with
  | some n => length ≤ max n 0
  | none => length ≤ maxFormSize

/-- `parsePostForm(r)`: the values of a form body, and the error met reading it. The
body is read only when `mime.ParseMediaType` gives the form media type for the
`Content-Type` header, an absent header counting as `application/octet-stream`; an error
of `ParseMediaType` is returned whatever else happens. -/
def parsePostForm (parseMediaType : GoString → Option GoString) (r : Request) :
    Values × Option ForeignError :=
  let ct := valuesGet r.header (lit "Content-Type")
  match parseMediaType (if ct = [] then mediaTypeOctetStream else ct) with
  | none => (∅, some .other)
  | some ct =>
    if ct ≠ mediaTypeForm then (∅, none)
    else if bodyFits r.bodyLimit r.body.length then parseQuery r.body
    else (∅, some .other)

/-- `copyValues(dst, src)`: the values of `src` after those of `dst`, key by key. -/
def copyValues (dst src : Values) : Values :=
  src.entries.foldl (fun acc e => acc.insert e.1 (valuesOf acc e.1 ++ e.2)) dst

/-- `request.ParseForm()` on a request not parsed before, then `request.Form`: the
body's values for a POST, PUT or PATCH (`PostForm`), followed key by key by the
query's; or the first error met, the body's before the query's. -/
def Request.parseForm (parseMediaType : GoString → Option GoString) (r : Request) :
    Except ForeignError Values :=
  let post := if r.method ∈ formMethods then parsePostForm parseMediaType r else (∅, none)
  let query := parseQuery r.rawQuery
  match post.2.orElse fun _ => query.2 with
  | some err => .error err
  | none => .ok (copyValues post.1 query.1)

/-! ## Parsing -/

def defaultPriority : Int := 5

/-- `jsonMessagePayload`: what the JSON decoder fills in. -/
structure JsonMessagePayload where
  message : GoString
  title : GoString
  priority : Option Int
  extras : Option JsonObject

/-- `gotify.MessageRequest`. -/
structure MessageRequest where
  message : GoString
  title : GoString
  priority : Int
  extras : Option JsonObject

/-- The calls into Go's standard library that `ParseMessageRequest` makes and the
model leaves open. -/
structure Library where
  /-- `mime.ParseMediaType`: the media type, or `none` on an error. -/
  parseMediaType : GoString → Option GoString
  /-- `json.NewDecoder(request.Body).Decode(&payload)`. -/
  decodeJSON : Request → Except ForeignError JsonMessagePayload

def isDigit (b : UInt8) : Bool := 0x30 ≤ b.toNat && b.toNat ≤ 0x39

/-- `strconv.Atoi`: an optional sign and decimal digits, within `int`'s 64 bits. -/
def atoi (s : GoString) : Option Int :=
  let (neg, digits) : Bool × GoString :=
    match s with
    | 0x2B :: rest => (false, rest)
    | 0x2D :: rest => (true, rest)
    | _ => (false, s)
  if digits = [] ∨ !digits.all isDigit then none
  else
    let n : Int := digits.foldl (fun acc d => acc * 10 + (d.toNat - 0x30)) 0
    let v := if neg then -n else n
    if -2 ^ 63 ≤ v ∧ v < 2 ^ 63 then some v else none

/-- `validate`. -/
def validate (msg : MessageRequest) : Except GoError MessageRequest :=
  if trimSpace msg.message = [] then .error (.ofSentinel .errMessageRequired)
  else if msg.priority < 0 then .error (GoError.wrap (.ofSentinel .errInvalidPriority))
  else .ok msg

/-- `parseJSON`. -/
def parseJSON (lib : Library) (request : Request) : Except GoError MessageRequest :=
  match lib.decodeJSON request with
  | .error err => .error (GoError.wrap err.err)
  | .ok payload =>
    validate { message := trimSpace payload.message
               title := trimSpace payload.title
               priority := payload.priority.getD defaultPriority
               extras := payload.extras }

/-- `parseForm`. -/
def parseForm (lib : Library) (request : Request) : Except GoError MessageRequest :=
  match request.parseForm lib.parseMediaType with
  | .error err => .error (GoError.wrap err.err)
  | .ok form =>
    let message := trimSpace (valuesGet form (lit "message"))
    let title := trimSpace (valuesGet form (lit "title"))
    let priorityRaw := trimSpace (valuesGet form (lit "priority"))
    if priorityRaw = [] then validate ⟨message, title, defaultPriority, none⟩
    else
      match atoi priorityRaw with
      | none => .error (GoError.wrap (.ofSentinel .errInvalidPriority))
      | some parsed => validate ⟨message, title, parsed, none⟩

/-- `ParseMessageRequest`, for a non-nil request. -/
def parseMessageRequest (t : LowerCaseTable) (lib : Library) (request : Request) :
    Except GoError MessageRequest :=
  let contentType := valuesGet request.header (lit "Content-Type")
  let mediaType : Except GoError GoString :=
    if contentType = [] then .ok []
    else
      match lib.parseMediaType contentType with
      | none => .error (GoError.wrap (.ofSentinel .errUnsupportedContentType))
      | some parsedType => .ok (toLower t (trimSpace parsedType))
  match mediaType with
  | .error err => .error err
  | .ok mediaType =>
    if mediaType = lit "application/json" then parseJSON lib request
    else if mediaType = lit "application/x-www-form-urlencoded" ∨ mediaType = [] then parseForm lib request
    else .error (GoError.wrap (.ofSentinel .errUnsupportedContentType))

/-! ## What a parsed message satisfies -/

section Accepted

variable {msg : MessageRequest}

end Accepted

/-! ## `ParseForm` and `Atoi`, read back -/

theorem valuesOf_foldl_copy (k : GoString) :
    ∀ (es : List (Sigma fun _ : GoString => List GoString)) (acc : Values), es.NodupKeys →
      valuesOf (es.foldl (fun acc e => acc.insert e.1 (valuesOf acc e.1 ++ e.2)) acc) k =
        valuesOf acc k ++ (es.dlookup k).getD []
  | [], acc, _ => by simp
  | ⟨k', vs⟩ :: es, acc, h => by
    rw [List.nodupKeys_cons] at h
    rw [List.foldl_cons, valuesOf_foldl_copy k es _ h.2]
    by_cases hk : k = k'
    · subst hk
      rw [List.dlookup_cons_eq, List.dlookup_eq_none.mpr h.1]
      simp [valuesOf]
    · rw [List.dlookup_cons_ne _ _ hk]
      simp [valuesOf, AList.lookup_insert_ne hk]

/-- `Form` holds a key's body values, then its query values. -/
theorem valuesOf_copyValues (dst src : Values) (k : GoString) :
    valuesOf (copyValues dst src) k = valuesOf dst k ++ valuesOf src k :=
  valuesOf_foldl_copy k src.entries dst src.nodupKeys

theorem valuesGet_sending (r : Request) (mediaType body : GoString) :
    valuesGet (r.sending mediaType body).header (lit "Content-Type") = mediaType := by
  simp [Request.sending, valuesGet]

/-- `ParseForm` of a POST, PUT or PATCH sent with the form media type, when
`ParseMediaType` reads that type as itself, and the body fits and parses, as does the
URL's query: the body's values, then the query's. -/
theorem Request.parseForm_sending_form {parseMediaType : GoString → Option GoString}
    (hform : parseMediaType mediaTypeForm = some mediaTypeForm) {r : Request}
    (hmethod : r.method ∈ formMethods) (hquery : (parseQuery r.rawQuery).2 = none) {body : GoString}
    (hbody : (parseQuery body).2 = none) (hfits : bodyFits r.bodyLimit body.length = true) :
    (r.sending mediaTypeForm body).parseForm parseMediaType = .ok (copyValues (parseQuery body).1 r.query) := by
  have hne : mediaTypeForm ≠ [] := by decide
  simp only [Request.parseForm, parsePostForm, valuesGet_sending, hne, if_false, hform, ne_eq,
    not_true_eq_false]
  simp only [Request.sending, hmethod, if_true, hfits, hbody, Option.orElse, hquery, Request.query]

/-- With no `Content-Type`, `parsePostForm` reads no body and finds no error. -/
theorem parsePostForm_of_no_content_type {parseMediaType : GoString → Option GoString}
    (hoctet : parseMediaType mediaTypeOctetStream = some mediaTypeOctetStream) {r : Request}
    (hct : valuesGet r.header (lit "Content-Type") = []) : parsePostForm parseMediaType r = (∅, none) := by
  have hne : mediaTypeOctetStream ≠ mediaTypeForm := by decide
  simp only [parsePostForm, hct, if_true, hoctet, hne, ne_eq, not_false_eq_true]

/-- With no `Content-Type`, `ParseForm` never reads the body. -/
theorem Request.parseForm_body_irrelevant {parseMediaType : GoString → Option GoString}
    (hoctet : parseMediaType mediaTypeOctetStream = some mediaTypeOctetStream) {r : Request}
    (hct : valuesGet r.header (lit "Content-Type") = []) (body : GoString) :
    { r with body }.parseForm parseMediaType = r.parseForm parseMediaType := by
  simp only [Request.parseForm, parsePostForm_of_no_content_type hoctet hct,
    parsePostForm_of_no_content_type hoctet (r := { r with body }) hct]

theorem foldl_digits (l : GoString) (hl : ∀ b ∈ l, 0x30 ≤ b.toNat) (a : Int) :
    l.foldl (fun (acc : Int) d => acc * 10 + (d.toNat - 0x30)) a =
      a * 10 ^ l.length + ((Nat.ofDigits 10 (l.reverse.map fun b => b.toNat - 0x30) : Nat) : Int) := by
  induction l generalizing a with
  | nil => simp [Nat.ofDigits_nil]
  | cons b l ih =>
    have hb := hl b (List.mem_cons_self _ _)
    rw [List.foldl_cons, ih (fun x hx => hl x (List.mem_cons_of_mem _ hx)), List.reverse_cons,
      List.map_append, Nat.ofDigits_append, List.length_map, List.length_reverse, List.length_cons]
    simp only [List.map_cons, List.map_nil, Nat.ofDigits_singleton]
    push_cast [hb]
    ring

/-- **`Atoi` reads back what `Itoa` writes**, for every `int`. -/
theorem atoi_itoa {i : Int} (h : -2 ^ 63 ≤ i ∧ i < 2 ^ 63) : atoi (itoa i) = some i := by
  have hval (n : Nat) :
      (formatUint n).foldl (fun (acc : Int) d => acc * 10 + (d.toNat - 0x30)) 0 = n := by
    rw [foldl_digits _ (fun b hb => ((formatUint_digits n).2 b hb).1), ofDigits_formatUint]
    simp
  have hall (n : Nat) : (formatUint n).all isDigit = true :=
    List.all_eq_true.mpr fun b hb => by simpa [isDigit] using (formatUint_digits n).2 b hb
  unfold itoa
  split_ifs with hneg
  · have habs : ((i.natAbs : Nat) : Int) = -i := Int.ofNat_natAbs_of_nonpos (by omega)
    rw [show lit "-" = [0x2D] from rfl, List.singleton_append]
    simp only [atoi, (formatUint_digits _).1, hall, hval, habs, neg_neg, if_true]
    simp only [false_or, Bool.not_true, Bool.false_eq_true, if_false, if_pos h]
  · have hto : ((i.toNat : Nat) : Int) = i := Int.toNat_of_nonneg (by omega)
    obtain ⟨b, bs, hb⟩ := List.exists_cons_of_ne_nil (formatUint_digits i.toNat).1
    have hbd := (formatUint_digits i.toNat).2 b (hb ▸ List.mem_cons_self _ _)
    unfold atoi
    rw [hb]
    split
    next neg digits hm =>
      split at hm
      next heq => exact absurd ((List.cons.inj heq).1 ▸ hbd) (by decide)
      next heq => exact absurd ((List.cons.inj heq).1 ▸ hbd) (by decide)
      · obtain ⟨rfl, rfl⟩ := Prod.mk.inj hm
        rw [← hb]
        simp only [(formatUint_digits _).1, hall, hval, hto, false_or, Bool.not_true,
          Bool.false_eq_true, if_false, if_pos h]

/-! ## Which parser runs -/

/-- What `mime.ParseMediaType` returns for the three bare media types that
`ParseMessageRequest` and `ParseForm` ask about: the type itself, with no error. -/
def BareMediaTypes (parseMediaType : GoString → Option GoString) : Prop :=
  parseMediaType mediaTypeJSON = some mediaTypeJSON ∧ parseMediaType mediaTypeForm = some mediaTypeForm ∧
    parseMediaType mediaTypeOctetStream = some mediaTypeOctetStream

section Dispatch

variable (t : LowerCaseTable) (lib : Library) {r : Request}

theorem parseMessageRequest_of_json (hjson : lib.parseMediaType mediaTypeJSON = some mediaTypeJSON)
    (hct : valuesGet r.header (lit "Content-Type") = mediaTypeJSON) :
    parseMessageRequest t lib r = parseJSON lib r := by
  have hne : mediaTypeJSON ≠ [] := by decide
  have hlow : toLower t (trimSpace mediaTypeJSON) = mediaTypeJSON := by
    rw [show trimSpace mediaTypeJSON = mediaTypeJSON by decide, toLower_of_ascii t _ (by decide)]
    decide
  simp only [parseMessageRequest, hct, hne, if_false, hjson, hlow]
  rfl

theorem parseMessageRequest_of_form (hform : lib.parseMediaType mediaTypeForm = some mediaTypeForm)
    (hct : valuesGet r.header (lit "Content-Type") = mediaTypeForm) :
    parseMessageRequest t lib r = parseForm lib r := by
  have hne : mediaTypeForm ≠ [] := by decide
  have hlow : toLower t (trimSpace mediaTypeForm) = mediaTypeForm := by
    rw [show trimSpace mediaTypeForm = mediaTypeForm by decide, toLower_of_ascii t _ (by decide)]
    decide
  have hjson : mediaTypeForm ≠ lit "application/json" := by decide
  simp only [parseMessageRequest, hct, hne, if_false, hform, hlow, hjson]
  rfl

/-- With no `Content-Type`, `ParseMessageRequest` takes the form path. -/
theorem parseMessageRequest_of_no_content_type (hct : valuesGet r.header (lit "Content-Type") = []) :
    parseMessageRequest t lib r = parseForm lib r := by
  have hjson : ([] : GoString) ≠ lit "application/json" := by decide
  simp only [parseMessageRequest, hct, if_true, hjson, if_false, or_true]

end Dispatch

/-! ## One message, two encodings -/

/-- The fields of a message request in the order `message`, `title`, `priority`, the
last left out when there is no priority. -/
def messageFields (message title : GoString) (priority : Option Int) : List (GoString × GoString) :=
  (lit "message", message) :: (lit "title", title) :: priority.toList.map fun p => (lit "priority", itoa p)

/-- A JSON string literal whose value is `s`: quotes around it, a backslash before `"`
and before a backslash, `\u00XX` for a control byte, and every other byte as it is. -/
def jsonQuote (s : GoString) : GoString :=
  0x22 :: s.flatMap (fun c =>
    if c = 0x22 ∨ c = 0x5C then [0x5C, c]
    else if c.toNat < 0x20 then [0x5C, 0x75, 0x30, 0x30, upperHex (c.toNat / 16), upperHex (c.toNat % 16)]
    else [c]) ++ [0x22]

/-- The JSON body of the same fields, `priority` written as a JSON number and left out
when there is no priority. -/
def messageJSON (message title : GoString) (priority : Option Int) : GoString :=
  lit "\x7b\"message\":" ++ jsonQuote message ++ lit ",\"title\":" ++ jsonQuote title ++
    (priority.toList.flatMap fun p => lit ",\"priority\":" ++ itoa p) ++ lit "\x7d"

/-- `validate` on a message whose text has been trimmed: it accepts exactly when the text
is not blank and the priority is not negative. -/
theorem validate_trimmed (message title : GoString) (priority : Int) (extras : Option JsonObject) :
    let m : MessageRequest := ⟨trimSpace message, title, priority, extras⟩
    (trimSpace message ≠ [] → 0 ≤ priority → validate m = .ok m) ∧
    (trimSpace message = [] → ∃ err, validate m = .error err ∧ errorsIs err .errMessageRequired) ∧
    (trimSpace message ≠ [] → priority < 0 →
      ∃ err, validate m = .error err ∧ errorsIs err .errInvalidPriority) := by
  simp only [validate, trimSpace_trimSpace]
  exact ⟨fun h1 h2 => by simp [h1, not_lt.mpr h2],
    fun h1 => ⟨.ofSentinel .errMessageRequired, by simp [h1], by decide⟩,
    fun h1 h2 => ⟨(GoError.ofSentinel .errInvalidPriority).wrap, by simp [h1, h2], by decide⟩⟩

/-- The form values `ParseForm` reads from the URL-encoded fields, when the URL's query
names none of them. -/
theorem formValues_messageFields (message title : GoString) (priority : Option Int) (q : Values)
    (hq : ∀ k ∈ [lit "message", lit "title", lit "priority"], q.lookup k = none) :
    let form := copyValues ((messageFields message title priority).foldl (fun m f => valuesAdd m f.1 f.2) ∅) q
    valuesGet form (lit "message") = message ∧ valuesGet form (lit "title") = title ∧
      valuesGet form (lit "priority") = (priority.map itoa).getD [] := by
  have hv : ∀ k ∈ [lit "message", lit "title", lit "priority"], valuesOf q k = [] :=
    fun k hk => by simp [valuesOf, hq k hk]
  have e1 : (lit "title" == lit "message") = false := by decide
  have e2 : (lit "priority" == lit "message") = false := by decide
  have e3 : (lit "message" == lit "title") = false := by decide
  have e4 : (lit "priority" == lit "title") = false := by decide
  have e5 : (lit "message" == lit "priority") = false := by decide
  have e6 : (lit "title" == lit "priority") = false := by decide
  simp only [valuesGet_eq_headD, valuesOf_copyValues, valuesOf_foldl_valuesAdd, valuesOf_empty,
    List.nil_append, hv _ (List.mem_cons_self _ _), hv _ (List.mem_cons_of_mem _ (List.mem_cons_self _ _)),
    hv _ (List.mem_cons_of_mem _ (List.mem_cons_of_mem _ (List.mem_cons_self _ _))), List.append_nil]
  cases priority <;> simp [messageFields, e1, e2, e3, e4, e5, e6]

/-- **The JSON body and the URL-encoded body of the same fields get the same outcome**,
for a POST, PUT or PATCH whose URL query parses and names none of the fields, with a form
body `ParseForm` reads whole, and a JSON decoder that reads the JSON body as the fields
it spells. The outcome is acceptance exactly when the trimmed message is not blank and
the priority (5 when absent) is not negative, and otherwise `ErrMessageRequired` or
`ErrInvalidPriority`. -/
theorem parseMessageRequest_json_form (t : LowerCaseTable) (lib : Library)
    (hmedia : BareMediaTypes lib.parseMediaType) (r : Request) (hmethod : r.method ∈ formMethods)
    (hquery : (parseQuery r.rawQuery).2 = none)
    (hfree : ∀ k ∈ [lit "message", lit "title", lit "priority"], r.query.lookup k = none)
    (message title : GoString) (priority : Option Int) (hint : ∀ p ∈ priority, -2 ^ 63 ≤ p ∧ p < 2 ^ 63)
    (hfits : bodyFits r.bodyLimit (encodeQuery (messageFields message title priority)).length = true)
    (hjson : lib.decodeJSON (r.sending mediaTypeJSON (messageJSON message title priority)) =
      .ok ⟨message, title, priority, none⟩) :
    let expected : MessageRequest :=
      ⟨trimSpace message, trimSpace title, priority.getD defaultPriority, none⟩
    let json := parseMessageRequest t lib (r.sending mediaTypeJSON (messageJSON message title priority))
    let form := parseMessageRequest t lib
      (r.sending mediaTypeForm (encodeQuery (messageFields message title priority)))
    json = form ∧
      (trimSpace message ≠ [] → 0 ≤ priority.getD defaultPriority → form = .ok expected) ∧
      (trimSpace message = [] → ∃ err, form = .error err ∧ errorsIs err .errMessageRequired) ∧
      (trimSpace message ≠ [] → priority.getD defaultPriority < 0 →
        ∃ err, form = .error err ∧ errorsIs err .errInvalidPriority) := by
  intro expected json form
  have hjs : json = validate expected := by
    simp only [json]
    rw [parseMessageRequest_of_json t lib hmedia.1 (valuesGet_sending _ _ _), parseJSON, hjson]
  have hfm : form = validate expected := by
    have hparse := Request.parseForm_sending_form hmedia.2.1 hmethod hquery
      (by rw [parseQuery_encodeQuery]) hfits
    rw [parseQuery_encodeQuery] at hparse
    obtain ⟨hm, ht, hp⟩ := formValues_messageFields message title priority r.query hfree
    simp only [form]
    rw [parseMessageRequest_of_form t lib hmedia.2.1 (valuesGet_sending _ _ _)]
    simp only [parseForm, hparse, hm, ht, hp]
    cases priority with
    | none => rw [Option.map_none', Option.getD_none, trimSpace_nil, if_pos rfl]; rfl
    | some p =>
      rw [Option.map_some', Option.getD_some, trimSpace_itoa, if_neg (itoa_ne_nil p), atoi_itoa (hint p rfl)]
      rfl
  obtain ⟨h1, h2, h3⟩ := validate_trimmed message (trimSpace title) (priority.getD defaultPriority) none
  exact ⟨hjs.trans hfm.symm, hfm ▸ h1, hfm ▸ h2, hfm ▸ h3⟩

/-- A POST of `hello` with no priority and no query, under a JSON decoder that reads the
JSON body as those fields. -/
theorem sampleMessage_json_form :
    let lib : Library := ⟨some, fun _ => .ok ⟨lit "hello", [], none, none⟩⟩
    let r : Request := ⟨lit "POST", ∅, [], [], none⟩
    parseMessageRequest asciiOnlyLowerCase lib (r.sending mediaTypeJSON (messageJSON (lit "hello") [] none)) =
        parseMessageRequest asciiOnlyLowerCase lib
          (r.sending mediaTypeForm (encodeQuery (messageFields (lit "hello") [] none))) ∧
      parseMessageRequest asciiOnlyLowerCase lib
          (r.sending mediaTypeForm (encodeQuery (messageFields (lit "hello") [] none))) =
        .ok ⟨trimSpace (lit "hello"), trimSpace [], defaultPriority, none⟩ :=
  let h := parseMessageRequest_json_form asciiOnlyLowerCase ⟨some, fun _ => .ok ⟨lit "hello", [], none, none⟩⟩
    ⟨rfl, rfl, rfl⟩ ⟨lit "POST", ∅, [], [], none⟩ (by decide) rfl (by decide) (lit "hello") [] none
    (by rintro p ⟨⟩) (by decide) rfl
  ⟨h.1, h.2.1 (by decide) (by decide)⟩

/-- A query with a `;` in it, as `?a=1;b=2`, names none of the fields, yet `ParseForm`
rejects it: the URL-encoded body of `hello` fails, and not for its message or priority,
where the JSON body of the same fields is accepted. -/
theorem parseMessageRequest_form_semicolon_query :
    let lib : Library := ⟨some, fun _ => .ok ⟨lit "hello", [], none, none⟩⟩
    let r : Request := ⟨lit "POST", ∅, lit "a=1;b=2", [], none⟩
    (∀ k ∈ [lit "message", lit "title", lit "priority"], r.query.lookup k = none) ∧
      parseMessageRequest asciiOnlyLowerCase lib (r.sending mediaTypeJSON (messageJSON (lit "hello") [] none)) =
        .ok ⟨lit "hello", [], defaultPriority, none⟩ ∧
      parseMessageRequest asciiOnlyLowerCase lib
          (r.sending mediaTypeForm (encodeQuery (messageFields (lit "hello") [] none))) =
        .error (GoError.wrap ForeignError.other.err) ∧
      ¬errorsIs (GoError.wrap ForeignError.other.err) .errMessageRequired ∧
      ¬errorsIs (GoError.wrap ForeignError.other.err) .errInvalidPriority := by
  refine ⟨by decide, ?_, ?_, by decide, by decide⟩
  · rw [parseMessageRequest_of_json _ _ rfl (valuesGet_sending _ _ _)]
    rfl
  · rw [parseMessageRequest_of_form _ _ rfl (valuesGet_sending _ _ _)]
    rfl

/-! ## No `Content-Type` -/

/-- **With no `Content-Type` the body is never read.** `ParseMessageRequest` takes the
form path, but `ParseForm` reads a body only for the form media type and reads an absent
header as `application/octet-stream`, so the result is the same for every body. The
URL-encoded body `message=hello` is rejected with `ErrMessageRequired` without the
header, and accepted as `hello` with it. -/
theorem parseMessageRequest_without_content_type (t : LowerCaseTable) (lib : Library)
    (hmedia : BareMediaTypes lib.parseMediaType) :
    (∀ (r : Request) (body : GoString), valuesGet r.header (lit "Content-Type") = [] →
      parseMessageRequest t lib { r with body } = parseMessageRequest t lib r) ∧
    let r : Request := ⟨lit "POST", ∅, [], lit "message=hello", none⟩
    (∃ err, parseMessageRequest t lib r = .error err ∧ errorsIs err .errMessageRequired) ∧
      parseMessageRequest t lib (r.sending mediaTypeForm r.body) =
        .ok ⟨lit "hello", [], defaultPriority, none⟩ := by
  refine ⟨fun r body hct => ?_, ?_⟩
  · rw [parseMessageRequest_of_no_content_type t lib (r := { r with body }) hct,
      parseMessageRequest_of_no_content_type t lib hct]
    simp only [parseForm, Request.parseForm_body_irrelevant hmedia.2.2 hct]
  intro r
  have hbody : r.body = encodeQuery [(lit "message", lit "hello")] := by decide
  have e1 : lit "title" ≠ lit "message" := by decide
  have e2 : lit "priority" ≠ lit "message" := by decide
  refine ⟨⟨.ofSentinel .errMessageRequired, ?_, by decide⟩, ?_⟩
  · rw [parseMessageRequest_of_no_content_type t lib (r := r) rfl, parseForm, Request.parseForm,
      parsePostForm_of_no_content_type hmedia.2.2 (r := r) rfl]
    simp [r, Request.query, copyValues, valuesGet_eq_headD, validate]
  · rw [parseMessageRequest_of_form t lib hmedia.2.1 (valuesGet_sending _ _ _), parseForm, hbody,
      Request.parseForm_sending_form hmedia.2.1 (r := r) (by decide) rfl
        (by rw [parseQuery_encodeQuery]) (by decide), parseQuery_encodeQuery]
    simp [r, Request.query, copyValues, valuesGet_eq_headD, valuesOf_valuesAdd, e1, e2,
      show trimSpace (lit "hello") = lit "hello" by decide, show lit "hello" ≠ [] by decide,
      show ¬defaultPriority < 0 by decide, validate]

/-- The failing request, under a library whose `ParseMediaType` returns every header as
it is. -/
theorem sampleForm_without_content_type :
    let lib : Library := ⟨some, fun _ => .error .other⟩
    let r : Request := ⟨lit "POST", ∅, [], lit "message=hello", none⟩
    (∃ err, parseMessageRequest asciiOnlyLowerCase lib r = .error err ∧ errorsIs err .errMessageRequired) ∧
      parseMessageRequest asciiOnlyLowerCase lib (r.sending mediaTypeForm r.body) =
        .ok ⟨lit "hello", [], defaultPriority, none⟩ :=
  (parseMessageRequest_without_content_type asciiOnlyLowerCase ⟨some, fun _ => .error .other⟩
    ⟨rfl, rfl, rfl⟩).2

end Gotilert.Gotify
