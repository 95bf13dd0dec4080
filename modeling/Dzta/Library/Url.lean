import Dzta.Library.Bytes
import Dzta.Library.Http
import Mathlib.Data.List.DropRight

/-!
# The query of a URL

What a client sends for the query of an `http` URL.  It cuts control characters and spaces off the
end, removes tabs and line ends wherever they stand, drops the fragment, and writes every character
that may not stand in a query as the bytes of its encoding, two hexadecimal digits behind a percent
sign.  A percent sign itself is left as it is, so this is no encoding that could be undone.

**What stands for itself is sent as it is** (`sentQuery_append`).  Reading up to a separator
commutes with the encoding (`takeWhile_encode`), since the encoding of a character never has one in
it.  `UrlStack` is a stack between client and receiver that treats queries so.
-/

namespace Url

/-! ## Characters

The classes of characters that a URL distinguishes. -/

/-- A control character below the space, or the space. -/
def isC0OrSpace (c : Char) : Bool := c.toNat ≤ 0x20

/-- A character that is removed from a URL. -/
def isTabOrNewline (c : Char) : Bool := c = '\t' || c = '\n' || c = '\r'

/-- A character that stands for itself in a query: printable, and neither a quotation mark, a hash,
an apostrophe nor an angle bracket. -/
def isQueryChar (c : Char) : Bool :=
  0x21 ≤ c.toNat && c.toNat ≤ 0x7E && c.toNat ∉ [0x22, 0x23, 0x27, 0x3C, 0x3E]

/-- An upper-case hexadecimal digit. -/
def hexDigit (n : ℕ) : Char := (Nat.digitChar n).toUpper

/-- The characters that the encoding of a byte is made of. -/
def escapeChars : List Char := "%0123456789ABCDEF".toList

/-- The encoding of a byte. -/
def percentByte (b : UInt8) : List Char := ['%', hexDigit (b.toNat / 16), hexDigit (b.toNat % 16)]

/-- The encoding of a character. -/
def encodeChar (c : Char) : List Char :=
  if isQueryChar c then [c] else (String.utf8EncodeChar c).flatMap percentByte

lemma hexDigit_mem : ∀ n < 16, hexDigit n ∈ escapeChars := by decide

lemma isQueryChar_of_mem_escapeChars : ∀ c ∈ escapeChars, isQueryChar c = true :=
  List.all_iff_forall_prop.mp (by decide)

lemma mem_escapeChars_of_mem_percentByte {c : Char} {b : UInt8} (h : c ∈ percentByte b) :
    c ∈ escapeChars := by
  have hb := b.toNat_lt
  simp only [percentByte, List.mem_cons, List.not_mem_nil, or_false] at h
  rcases h with rfl | rfl | rfl
  · decide
  · exact hexDigit_mem _ (by omega)
  · exact hexDigit_mem _ (by omega)

lemma encodeChar_of_isQueryChar {c : Char} (h : isQueryChar c = true) : encodeChar c = [c] :=
  if_pos h

lemma mem_escapeChars_of_mem_encodeChar {c d : Char} (h : isQueryChar c = false)
    (hd : d ∈ encodeChar c) : d ∈ escapeChars := by
  rw [encodeChar, if_neg (by simp [h])] at hd
  obtain ⟨b, -, hb⟩ := List.mem_flatMap.mp hd
  exact mem_escapeChars_of_mem_percentByte hb

lemma isQueryChar_of_mem_encodeChar {c d : Char} (hd : d ∈ encodeChar c) :
    isQueryChar d = true := by
  cases h : isQueryChar c with
  | true =>
    rw [encodeChar_of_isQueryChar h, List.mem_singleton] at hd
    rw [hd, h]
  | false => exact isQueryChar_of_mem_escapeChars d (mem_escapeChars_of_mem_encodeChar h hd)

lemma encodeChar_ne_nil (c : Char) : encodeChar c ≠ [] := by
  obtain ⟨b, bs, hbytes, -⟩ := Bytes.utf8EncodeChar_cons c
  rw [encodeChar, hbytes]
  split <;> simp [percentByte]

/-! ## Encoding a text

A text as a query that is decoded to it. -/

/-- The encoding of a text. -/
def encode (text : List Char) : List Char := text.flatMap encodeChar

@[simp] lemma encode_nil : encode [] = [] := rfl

@[simp] lemma encode_cons (c : Char) (cs : List Char) :
    encode (c :: cs) = encodeChar c ++ encode cs := List.flatMap_cons

lemma encode_append (s t : List Char) : encode (s ++ t) = encode s ++ encode t :=
  List.flatMap_append

lemma encode_eq_nil_iff {text : List Char} : encode text = [] ↔ text = [] := by
  cases text with
  | nil => simp
  | cons c cs => simp [encodeChar_ne_nil]

/-- A text of characters that stand for themselves is its own encoding. -/
lemma encode_eq_self {text : List Char} (h : ∀ c ∈ text, isQueryChar c = true) :
    encode text = text := by
  induction text with
  | nil => rfl
  | cons c cs ih =>
    obtain ⟨hc, hcs⟩ := List.forall_mem_cons.mp h
    rw [encode_cons, encodeChar_of_isQueryChar hc, ih hcs, List.singleton_append]

lemma isQueryChar_of_mem_encode {text : List Char} {d : Char} (hd : d ∈ encode text) :
    isQueryChar d = true := by
  obtain ⟨c, -, hc⟩ := List.mem_flatMap.mp hd
  exact isQueryChar_of_mem_encodeChar hc

/-- **Reading up to a separator commutes with the encoding**, if separators stand for themselves
and the encoding of other characters has none. -/
theorem takeWhile_encode {p : Char → Bool} (hescape : ∀ c ∈ escapeChars, p c = true)
    (hsep : ∀ c, p c = false → isQueryChar c = true) (text : List Char) :
    (encode text).takeWhile p = encode (text.takeWhile p) := by
  induction text with
  | nil => rfl
  | cons c cs ih =>
    cases hp : p c with
    | false =>
      rw [encode_cons, encodeChar_of_isQueryChar (hsep c hp), List.singleton_append,
        List.takeWhile_cons_of_neg (by simp [hp]), List.takeWhile_cons_of_neg (by simp [hp]),
        encode_nil]
    | true =>
      have hchars : ∀ d ∈ encodeChar c, p d = true := by
        intro d hd
        cases hc : isQueryChar c with
        | true =>
          rw [encodeChar_of_isQueryChar hc, List.mem_singleton] at hd
          rw [hd, hp]
        | false => exact hescape d (mem_escapeChars_of_mem_encodeChar hc hd)
      rw [encode_cons, List.takeWhile_append_of_pos hchars, ih, List.takeWhile_cons_of_pos hp,
        encode_cons]

/-! ## The query as it is sent

What becomes of a text that is put into a URL as it is. -/

/-- A text without what the end of a URL may not be and without what is removed from it. -/
def strip (text : List Char) : List Char :=
  (text.rdropWhile isC0OrSpace).filter fun c => !isTabOrNewline c

/-- What is sent for a query, possibly with a fragment behind it. -/
def sentQuery (query : String) : String :=
  String.ofList (encode ((strip query.toList).takeWhile (· ≠ '#')))

lemma isC0OrSpace_of_isQueryChar {c : Char} (h : isQueryChar c = true) : isC0OrSpace c = false := by
  simp only [isQueryChar, Bool.and_eq_true, decide_eq_true_eq] at h
  simp only [isC0OrSpace, decide_eq_false_iff_not]
  omega

lemma isTabOrNewline_of_isQueryChar {c : Char} (h : isQueryChar c = true) :
    isTabOrNewline c = false := by
  have hc := isC0OrSpace_of_isQueryChar h
  rw [← Bool.not_eq_true] at hc ⊢
  refine fun htab => hc ?_
  simp only [isTabOrNewline, Bool.or_eq_true, decide_eq_true_eq] at htab
  rcases htab with (rfl | rfl) | rfl <;> rfl

lemma ne_hash_of_isQueryChar {c : Char} (h : isQueryChar c = true) : decide (c ≠ '#') = true := by
  refine decide_eq_true ?_
  rintro rfl
  exact absurd h (by decide)

/-- Only the end of a text is stripped as an end. -/
lemma strip_append {s : List Char} (h : ∀ c ∈ s, isQueryChar c = true) (t : List Char) :
    strip (s ++ t) = s ++ strip t := by
  have hkeep : s.filter (fun c => !isTabOrNewline c) = s :=
    List.filter_eq_self.mpr fun c hc => by simp [isTabOrNewline_of_isQueryChar (h c hc)]
  have hstart : s.rdropWhile isC0OrSpace = s := by
    rw [List.rdropWhile_eq_self_iff]
    intro hlast
    simp [isC0OrSpace_of_isQueryChar (h _ (List.getLast_mem hlast))]
  have hdrop : (s ++ t).rdropWhile isC0OrSpace = s ++ t.rdropWhile isC0OrSpace := by
    simp only [List.rdropWhile, List.reverse_append, List.dropWhile_append]
    split
    · rename_i hempty
      rw [List.isEmpty_iff.mp hempty]
      simpa [List.rdropWhile] using hstart
    · simp
  rw [strip, hdrop, List.filter_append, hkeep, strip]

lemma strip_eq_self {text : List Char} (h : ∀ c ∈ text, isQueryChar c = true) :
    strip text = text := by
  have happend := strip_append h []
  rwa [List.append_nil, show strip [] = [] from rfl, List.append_nil] at happend

/-- **The start of a query is sent as it is** if its characters may stand there. -/
theorem sentQuery_append {s : String} (h : ∀ c ∈ s.toList, isQueryChar c = true) (t : String) :
    sentQuery (s ++ t) = s ++ sentQuery t := by
  rw [sentQuery, String.toList_append, strip_append h,
    List.takeWhile_append_of_pos fun c hc => ne_hash_of_isQueryChar (h c hc), encode_append,
    encode_eq_self h, String.ofList_append, String.ofList_toList, sentQuery]

end Url

/-! ## Stacks

How the parts of a URL arrive at the other end. -/

/-- A client and what is between it and the receiver, where the query of a URL arrives behind the
path as it is sent. -/
structure UrlStack extends HttpStack where
  query : ∀ request origin path query, IsOrigin origin → CleanPath path →
    request.url = origin ++ (path ++ "?" ++ query) →
    findHeader (receive request) ":path" = some (path ++ "?" ++ Url.sentQuery query)

namespace UrlStack

/-- The path and the query of a URL, as they are sent. -/
def targetOf (url : String) : String :=
  let rest := (HttpStack.pathOf url).toList
  String.ofList (rest.takeWhile (· ≠ '?')) ++
    match rest.dropWhile (· ≠ '?') with
    | [] => ""
    | _ :: query => "?" ++ Url.sentQuery (String.ofList query)

lemma ne_mark_of_cleanPath {path : String} (h : CleanPath path) :
    ∀ c ∈ path.toList, decide (c ≠ '?') = true := by
  intro c hc
  refine decide_eq_true ?_
  rintro rfl
  rcases h.2 _ hc with h | h <;> exact absurd h (by decide)

lemma targetOf_path {origin path : String} (horigin : IsOrigin origin) (hpath : CleanPath path) :
    targetOf (origin ++ path) = path := by
  have htake : path.toList.takeWhile (· ≠ '?') = path.toList :=
    List.takeWhile_eq_self_iff.mpr (ne_mark_of_cleanPath hpath)
  have hdrop : path.toList.dropWhile (· ≠ '?') = [] :=
    List.dropWhile_eq_nil_iff.mpr (ne_mark_of_cleanPath hpath)
  simp only [targetOf, HttpStack.pathOf_origin horigin hpath.1, htake, hdrop, String.ofList_toList,
    String.append_empty]

lemma targetOf_query {origin path : String} (horigin : IsOrigin origin) (hpath : CleanPath path)
    (query : String) :
    targetOf (origin ++ (path ++ "?" ++ query)) = path ++ "?" ++ Url.sentQuery query := by
  have hlist : (path ++ "?" ++ query).toList = path.toList ++ '?' :: query.toList := by
    simp [String.toList_append]
  have hhead : (path ++ "?" ++ query).toList.head? = some '/' := by
    rw [hlist, List.head?_append, hpath.1, Option.some_or]
  have htake : (path.toList ++ '?' :: query.toList).takeWhile (· ≠ '?') = path.toList := by
    rw [List.takeWhile_append_of_pos (ne_mark_of_cleanPath hpath),
      List.takeWhile_cons_of_neg (by decide), List.append_nil]
  have hdrop : (path.toList ++ '?' :: query.toList).dropWhile (· ≠ '?') = '?' :: query.toList := by
    rw [List.dropWhile_append_of_pos (ne_mark_of_cleanPath hpath),
      List.dropWhile_cons_of_neg (by decide)]
  simp only [targetOf, HttpStack.pathOf_origin horigin hhead, hlist, htake, hdrop,
    String.ofList_toList]
  rw [String.append_assoc]

/-- A stack that adds the path and the query and passes everything else on. -/
def direct : UrlStack where
  acceptsUrl _ := true
  receive request := (":path", targetOf request.url) :: request.headers
  accepts _ _ _ _ := rfl
  path request origin path horigin hpath hurl := by
    have hname : sameHeader ":path" ":path" = true := by decide
    rw [findHeader_cons, if_pos hname, hurl, targetOf_path horigin hpath]
  header request name value hname _ hvalue := by
    rw [HttpStack.findHeader_path_cons hname, hvalue]
  query request origin path query horigin hpath hurl := by
    have hname : sameHeader ":path" ":path" = true := by decide
    rw [findHeader_cons, if_pos hname, hurl, targetOf_query horigin hpath]

end UrlStack
