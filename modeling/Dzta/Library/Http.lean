import Mathlib.Data.Bool.AllAny
import Mathlib.Data.List.Basic

/-!
# HTTP requests and their headers

Header lists as a receiver looks things up in them, requests as a client builds them, and what both
may rely on about the stack in between (`HttpStack`): a request to an origin arrives with the path
that follows the origin, and a header that is meant for the receiver arrives with its value, if that
has no characters that a proxy would reject or trim.  Everything else that a stack adds, drops or
rewrites is left open.
-/

/-! ## Headers

Names are compared without case, and the first header of a name counts. -/

/-- Header names are compared without case. -/
def sameHeader (name name' : String) : Bool :=
  name.toList.map Char.toLower = name'.toList.map Char.toLower

/-- The first header with a name. -/
def findHeader (headers : List (String × String)) (name : String) : Option String :=
  (headers.find? fun h => sameHeader h.1 name).map Prod.snd

@[simp] lemma findHeader_nil (name : String) : findHeader [] name = none := rfl

lemma findHeader_cons (h : String × String) (hs : List (String × String)) (name : String) :
    findHeader (h :: hs) name = if sameHeader h.1 name then some h.2 else findHeader hs name := by
  rw [findHeader, List.find?_cons]
  cases sameHeader h.1 name <;> rfl

/-- A name that a client accepts: characters of a token, at least one. -/
def validName (name : String) : Bool :=
  name ≠ "" ∧ name.toList.all fun c =>
    c.isAlphanum || "!#$%&*+-.^_|~".toList.contains c || c.toNat = 39 || c.toNat = 96

/-- A value that a client accepts: no control character but the tab.  (Characters beyond ASCII are
encoded in bytes that pass.) -/
def validValue (value : String) : Bool :=
  value.toList.all fun c => (0x20 ≤ c.toNat && c.toNat ≠ 0x7F) || c = '\t'

/-- A value that arrives as it was sent: printable ASCII, and no space at either end. -/
def HeaderSafe (value : String) : Prop :=
  (∀ c ∈ value.toList, 0x20 ≤ c.toNat ∧ c.toNat ≤ 0x7E) ∧
    value.toList.head? ≠ some ' ' ∧ value.toList.getLast? ≠ some ' '

lemma HeaderSafe.valid {value : String} (h : HeaderSafe value) : validValue value = true := by
  rw [validValue, List.all_eq_true]
  intro c hc
  have hrange := h.1 c hc
  have hlow : decide (0x20 ≤ c.toNat) = true := decide_eq_true hrange.1
  have hdel : decide (c.toNat ≠ 0x7F) = true := decide_eq_true (by omega)
  rw [hlow, hdel, Bool.and_true, Bool.true_or]

/-! ## Requests

A request that is built step by step; a part that is not accepted spoils it. -/

/-- A request as a client has built it. -/
structure OutgoingRequest where
  method : String
  url : String
  headers : List (String × String)

/-- Appends a header; a name or a value that is not accepted spoils the request. -/
def withHeader (name value : String) (request : Option OutgoingRequest) : Option OutgoingRequest :=
  request.bind fun r =>
    if validName name && validValue value then
      some { r with headers := r.headers ++ [(name, value)] }
    else none

/-- Appends headers in order. -/
def withHeaders (headers : List (String × String)) (request : Option OutgoingRequest) :
    Option OutgoingRequest :=
  headers.foldl (fun r h => withHeader h.1 h.2 r) request

lemma withHeaders_of_valid {headers : List (String × String)}
    (h : ∀ x ∈ headers, validName x.1 = true ∧ validValue x.2 = true) (r : OutgoingRequest) :
    withHeaders headers (some r) = some { r with headers := r.headers ++ headers } := by
  induction headers generalizing r with
  | nil => simp [withHeaders]
  | cons x xs ih =>
    obtain ⟨hx, hxs⟩ := List.forall_mem_cons.mp h
    have hone : withHeader x.1 x.2 (some r) = some { r with headers := r.headers ++ [x] } := by
      simp [withHeader, hx.1, hx.2]
    rw [withHeaders, List.foldl_cons, hone, ← withHeaders, ih hxs]
    simp

/-! ## The stack

What both ends make of a request, as far as an address is a plain one. -/

/-- A scheme and an authority. -/
def IsOrigin (origin : String) : Prop :=
  ∃ scheme ∈ ["http", "https"], ∃ authority : String, authority ≠ "" ∧
    (∀ c ∈ authority.toList, c.isAlphanum = true ∨ c ∈ ['.', ':', '-']) ∧
    origin = scheme ++ "://" ++ authority

/-- An origin does not end in a slash. -/
lemma IsOrigin.exists_last {origin : String} (h : IsOrigin origin) :
    ∃ init c, origin.toList = init ++ [c] ∧ c ≠ '/' := by
  obtain ⟨scheme, -, authority, hne, hauthority, rfl⟩ := h
  rcases List.eq_nil_or_concat authority.toList with hnil | ⟨init, c, hlist⟩
  · exact absurd (String.toList_inj.mp hnil) hne
  · refine ⟨scheme.toList ++ "://".toList ++ init, c, ?_, ?_⟩
    · rw [String.toList_append, String.toList_append, hlist, List.concat_eq_append,
        List.append_assoc _ init]
    · rintro rfl
      rcases hauthority '/' (by rw [hlist]; simp) with hc | hc <;> exact absurd hc (by decide)

/-- A path that no client and no proxy normalizes. -/
def CleanPath (path : String) : Prop :=
  path.toList.head? = some '/' ∧ ∀ c ∈ path.toList, c.isAlphanum = true ∨ c ∈ ['/', '-', '_']

/-- The names of headers that are meant for the receiver. -/
def CustomHeader (name : String) : Prop := "x-dzta-".toList <+: name.toList

instance (name : String) : Decidable (CustomHeader name) := inferInstanceAs (Decidable (_ <+: _))

/-- A client and what is between it and the receiver: which URLs it accepts, and the headers with
which a request arrives. -/
structure HttpStack where
  acceptsUrl : String → Bool
  receive : OutgoingRequest → List (String × String)
  accepts : ∀ origin path, IsOrigin origin → CleanPath path → acceptsUrl (origin ++ path) = true
  path : ∀ request origin path, IsOrigin origin → CleanPath path → request.url = origin ++ path →
    findHeader (receive request) ":path" = some path
  header : ∀ request name value, CustomHeader name → HeaderSafe value →
    findHeader request.headers name = some value → findHeader (receive request) name = some value

namespace HttpStack

/-- What follows the authority in a URL. -/
def pathOf (url : String) : String :=
  String.ofList (((url.toList.dropWhile (· ≠ ':')).drop 3).dropWhile (· ≠ '/'))

lemma pathOf_origin {origin path : String} (horigin : IsOrigin origin)
    (hpath : path.toList.head? = some '/') : pathOf (origin ++ path) = path := by
  obtain ⟨scheme, hscheme, authority, -, hauthority, rfl⟩ := horigin
  obtain ⟨rest, hrest⟩ := List.head?_eq_some_iff.mp hpath
  have hslash : ∀ c ∈ authority.toList, decide (c ≠ '/') = true := by
    intro c hc
    refine decide_eq_true ?_
    rintro rfl
    rcases hauthority _ hc with h | h <;> exact absurd h (by decide)
  have hscheme' : ∀ s ∈ ["http", "https"],
      ((s.toList ++ "://".toList ++ (authority.toList ++ path.toList)).dropWhile (· ≠ ':')).drop 3 =
        authority.toList ++ path.toList := by
    simp
  rw [pathOf]
  simp only [String.toList_append, List.append_assoc] at hscheme' ⊢
  rw [hscheme' scheme hscheme, List.dropWhile_append_of_pos hslash, hrest,
    List.dropWhile_cons_of_neg (by simp), ← hrest, String.ofList_toList]

/-- The path in front does not hide a header that is meant for the receiver. -/
lemma findHeader_path_cons {name : String} (hname : CustomHeader name) (path : String)
    (headers : List (String × String)) :
    findHeader ((":path", path) :: headers) name = findHeader headers name := by
  obtain ⟨rest, hrest⟩ := hname
  rw [findHeader_cons, if_neg]
  rw [sameHeader, ← hrest]
  simp

/-- A stack that adds the path and passes everything else on. -/
def direct : HttpStack where
  acceptsUrl _ := true
  receive request := (":path", pathOf request.url) :: request.headers
  accepts _ _ _ _ := rfl
  path request origin path horigin hpath hurl := by
    have hname : sameHeader ":path" ":path" = true := by decide
    rw [findHeader_cons, if_pos hname, hurl, pathOf_origin horigin hpath.1]
  header request name value hname _ hvalue := by
    rw [findHeader_path_cons hname, hvalue]

end HttpStack
