import Fasst.Go.Strings

/-!
# Fasst.Sip — `parseResponse` of the SIP scanner (`sip/scanner.go`, lines 200–240)

`Scan` reads the answer to its OPTIONS request, keeps it when it is valid UTF-8 (`decodeUTF8`) and
parses it with `parseResponse`: the lines are split at CRLF, the first is the status line, whose
first match of `SIP/2.0 (\d{3})` gives the status code, and every later line up to the first empty
one that has a colon is a header, stored in the `Headers` map under its trimmed name; an `Allow`
header (in any ASCII case) also sets `Methods` to its comma-separated, trimmed values.

A valid UTF-8 string is modelled as its runes (`List Char`): the splits are at ASCII characters,
`strings.TrimSpace` trims the runes that `unicode.IsSpace` accepts, and the regular expression's
`.` is one rune.  `strings.ToLower(key) == "allow"` compares ASCII case only, since no other rune
lowercases to a letter of `allow`.  The `Headers` map is its lookup function.

* `parseResponse_renderResponse`: a response written as a status line, headers `name: value`, an
  empty line and any body is parsed into that status line, a map that gives every name the value
  of its last header, and the methods of the last `Allow` header; the body never reaches them.
-/

namespace Fasst.Sip

open Fasst.Go (splitN split splitN_append splitN_one)

/-! ## Go's string functions on runes -/

/-- `unicode.IsSpace`: the Latin-1 spaces, and above Latin-1 the other runes of Unicode's
`White_Space`. -/
def isSpace (c : Char) : Bool :=
  match c.toNat with
  | 0x09 | 0x0A | 0x0B | 0x0C | 0x0D | 0x20 | 0x85 | 0xA0 | 0x1680 | 0x2028 | 0x2029 | 0x202F
  | 0x205F | 0x3000 => true
  | n => 0x2000 ≤ n && n ≤ 0x200A

def trimSpace (s : List Char) : List Char :=
  ((s.dropWhile isSpace).reverse.dropWhile isSpace).reverse

def splitLines : List Char → List (List Char)
  | [] => [[]]
  | '\r' :: '\n' :: s => [] :: splitLines s
  | c :: s =>
    match splitLines s with
    | l :: ls => (c :: l) :: ls
    | [] => [[c]]

/-- `SIP/2.0 (\d{3})` matched at the front of `s`: `.` is any rune but a newline and `\d` an
ASCII digit; the three digits of the group. -/
def statusCodeAt : List Char → Option (List Char)
  | 'S' :: 'I' :: 'P' :: '/' :: '2' :: c :: '0' :: ' ' :: d₁ :: d₂ :: d₃ :: _ =>
    if c ≠ '\n' ∧ d₁.isDigit ∧ d₂.isDigit ∧ d₃.isDigit then some [d₁, d₂, d₃] else none
  | _ => none

/-- `statusRegex.FindStringSubmatch(line)`: the group of the leftmost match. -/
def findStatusCode : List Char → Option (List Char)
  | [] => none
  | c :: s => (statusCodeAt (c :: s)).orElse fun _ => findStatusCode s

/-! ## `parseResponse` -/

/-- The fields of `ScanResults` that `Scan` and `parseResponse` write; `TLSLog` is the TLS
library's. -/
structure ScanResults where
  rawResponse : List Char
  statusCode : List Char
  statusLine : List Char
  methods : List (List Char)
  headers : List Char → Option (List Char)

def isAllow (key : List Char) : Bool := key.map Char.toLower = "allow".toList

/-- The `for` of `parseResponse` over `lines[1:]`, which stops at the first empty line. -/
def headerLoop (results : ScanResults) : List (List Char) → ScanResults
  | [] => results
  | line :: lines =>
    if line = [] then results
    else
      match splitN ':' 2 line with
      | [k, v] =>
        let key := trimSpace k
        let value := trimSpace v
        let results := { results with headers := Function.update results.headers key (some value) }
        let results :=
          if isAllow key then { results with methods := (split ',' value).map trimSpace }
          else results
        headerLoop results lines
      | _ => headerLoop results lines

/-- `parseResponse(response, results)`. -/
def parseResponse (response : List Char) (results : ScanResults) : ScanResults :=
  let lines := splitLines response
  let results :=
    match lines with
    | line :: _ =>
      { results with statusLine := line,
                     statusCode := (findStatusCode line).getD results.statusCode }
    | [] => results
  headerLoop { results with headers := fun _ => none } (lines.drop 1)

/-! ## The header loop as a fold -/

def headerStep (results : ScanResults) (line : List Char) : ScanResults :=
  match splitN ':' 2 line with
  | [k, v] =>
    let results :=
      { results with headers := Function.update results.headers (trimSpace k) (some (trimSpace v)) }
    if isAllow (trimSpace k) then { results with methods := (split ',' (trimSpace v)).map trimSpace }
    else results
  | _ => results

theorem headerLoop_cons {results : ScanResults} {line : List Char} (h : line ≠ [])
    (lines : List (List Char)) :
    headerLoop results (line :: lines) = headerLoop (headerStep results line) lines := by
  rw [headerLoop, if_neg h, headerStep]
  rcases splitN ':' 2 line with _ | ⟨k, _ | ⟨v, _ | ⟨w, t⟩⟩⟩ <;> rfl

theorem headerLoop_eq_foldl (results : ScanResults) (lines : List (List Char)) :
    headerLoop results lines = (lines.takeWhile (· ≠ [])).foldl headerStep results := by
  induction lines generalizing results with
  | nil => rfl
  | cons line lines ih =>
    by_cases h : line = []
    · simp [h, headerLoop]
    · rw [headerLoop_cons h, ih]
      simp [h]

/-! ## Reading a written response back -/

def headerLine (h : List Char × List Char) : List Char := h.1 ++ ':' :: ' ' :: h.2

/-- A response as a server writes it: the status line, every header line, an empty line, then the
body, each line ended by CRLF. -/
def renderResponse (statusLine : List Char) (headers : List (List Char × List Char))
    (body : List Char) : List Char :=
  statusLine ++ '\r' :: '\n' ::
    ((headers.map fun h => headerLine h ++ ['\r', '\n']).flatten ++ '\r' :: '\n' :: body)

/-- The value of the last header whose trimmed name is `key`, as a map filled in order keeps it. -/
def lastValue (headers : List (List Char × List Char)) (key : List Char) : Option (List Char) :=
  (headers.reverse.find? fun h => trimSpace h.1 = key).map fun h => trimSpace h.2

def lastMethods (headers : List (List Char × List Char)) : Option (List (List Char)) :=
  (headers.reverse.find? fun h => isAllow (trimSpace h.1)).map fun h =>
    (split ',' (trimSpace h.2)).map trimSpace

section Render

theorem trimSpace_cons {c : Char} (hc : isSpace c = true) (s : List Char) :
    trimSpace (c :: s) = trimSpace s := by
  simp [trimSpace, List.dropWhile, hc]

theorem splitLines_append {a : List Char} (ha : '\r' ∉ a) (b : List Char) :
    splitLines (a ++ '\r' :: '\n' :: b) = a :: splitLines b := by
  induction a with
  | nil => rfl
  | cons c a ih =>
    simp only [List.mem_cons, not_or] at ha
    rw [List.cons_append, splitLines.eq_3 c _ fun _ h _ => ha.1 h.symm, ih ha.2]

variable {headers : List (List Char × List Char)}

theorem splitLines_headers (hh : ∀ h ∈ headers, '\r' ∉ headerLine h) (body : List Char) :
    splitLines ((headers.map fun h => headerLine h ++ ['\r', '\n']).flatten ++ '\r' :: '\n' :: body) =
      headers.map headerLine ++ [] :: splitLines body := by
  induction headers with
  | nil => rfl
  | cons h hs ih =>
    rw [List.map_cons, List.flatten_cons, List.append_assoc, List.append_assoc, List.cons_append,
      List.cons_append, List.nil_append, splitLines_append (hh h (List.mem_cons_self h hs)),
      ih fun g hg => hh g (List.mem_cons_of_mem h hg), List.map_cons, List.cons_append]

theorem headerStep_headerLine {h : List Char × List Char} (hc : ':' ∉ h.1) (results : ScanResults) :
    headerStep results (headerLine h) =
      if isAllow (trimSpace h.1) then
        { results with headers := Function.update results.headers (trimSpace h.1) (some (trimSpace h.2)),
                       methods := (split ',' (trimSpace h.2)).map trimSpace }
      else { results with headers := Function.update results.headers (trimSpace h.1) (some (trimSpace h.2)) } := by
  have hs : splitN ':' 2 (headerLine h) = [h.1, ' ' :: h.2] := by
    rw [headerLine, splitN_append hc 0, splitN_one]
  rw [headerStep, hs]
  dsimp only
  rw [trimSpace_cons (show isSpace ' ' = true from rfl)]

theorem lastValue_cons (h : List Char × List Char) (hs : List (List Char × List Char)) (key : List Char) :
    lastValue (h :: hs) key =
      (lastValue hs key).orElse fun _ => if trimSpace h.1 = key then some (trimSpace h.2) else none := by
  simp only [lastValue, List.reverse_cons, List.find?_append]
  cases hs.reverse.find? fun h => trimSpace h.1 = key <;> by_cases hk : trimSpace h.1 = key <;>
    simp [hk]

theorem lastMethods_cons (h : List Char × List Char) (hs : List (List Char × List Char)) :
    lastMethods (h :: hs) =
      (lastMethods hs).orElse fun _ =>
        if isAllow (trimSpace h.1) then some ((split ',' (trimSpace h.2)).map trimSpace) else none := by
  simp only [lastMethods, List.reverse_cons, List.find?_append]
  cases hs.reverse.find? fun h => isAllow (trimSpace h.1) <;>
    by_cases hk : isAllow (trimSpace h.1) <;> simp [hk]

theorem foldl_headerStep (hc : ∀ h ∈ headers, ':' ∉ h.1) (results : ScanResults) :
    ((headers.map headerLine).foldl headerStep results).statusLine = results.statusLine ∧
      ((headers.map headerLine).foldl headerStep results).statusCode = results.statusCode ∧
      (∀ key, ((headers.map headerLine).foldl headerStep results).headers key =
        (lastValue headers key).orElse fun _ => results.headers key) ∧
      ((headers.map headerLine).foldl headerStep results).methods =
        (lastMethods headers).getD results.methods := by
  induction headers generalizing results with
  | nil => exact ⟨rfl, rfl, fun _ => rfl, rfl⟩
  | cons h hs ih =>
    obtain ⟨hl, hcode, hh, hm⟩ := ih (fun g hg => hc g (List.mem_cons_of_mem h hg))
      (headerStep results (headerLine h))
    have hstep := headerStep_headerLine (hc h (List.mem_cons_self h hs)) results
    rw [List.map_cons, List.foldl_cons]
    refine ⟨?_, ?_, fun key => ?_, ?_⟩
    · rw [hl, hstep]; split <;> rfl
    · rw [hcode, hstep]; split <;> rfl
    · have hhead : (headerStep results (headerLine h)).headers =
          Function.update results.headers (trimSpace h.1) (some (trimSpace h.2)) := by
        rw [hstep]; split <;> rfl
      rw [hh, lastValue_cons, hhead]
      cases lastValue hs key with
      | some _ => rfl
      | none =>
        by_cases hk : trimSpace h.1 = key
        · subst hk; simp
        · simp [hk, Function.update_noteq (Ne.symm hk)]
    · rw [hm, lastMethods_cons, hstep]
      cases lastMethods hs with
      | some _ => rfl
      | none => split <;> rfl

end Render

/-- **A written response parses back.** For every status line free of carriage returns, every list
of headers whose names are free of colons and carriage returns and whose values are free of
carriage returns, and every body: `parseResponse` of the status line, the headers as `name: value`
lines, an empty line and the body sets the status line, the status code of the first
`SIP/2.0 ddd` in it (leaving the code there when there is none), a `Headers` map that gives each
trimmed name the trimmed value of its last header and no other name a value, and the methods of the
last `Allow` header (leaving the methods there when there is none), whatever the body holds. -/
theorem parseResponse_renderResponse {statusLine body : List Char}
    {headers : List (List Char × List Char)} (hs : '\r' ∉ statusLine)
    (hh : ∀ h ∈ headers, ':' ∉ h.1 ∧ '\r' ∉ h.1 ∧ '\r' ∉ h.2) (results : ScanResults) :
    (parseResponse (renderResponse statusLine headers body) results).statusLine = statusLine ∧
      (parseResponse (renderResponse statusLine headers body) results).statusCode =
        (findStatusCode statusLine).getD results.statusCode ∧
      (∀ key, (parseResponse (renderResponse statusLine headers body) results).headers key =
        lastValue headers key) ∧
      (parseResponse (renderResponse statusLine headers body) results).methods =
        (lastMethods headers).getD results.methods := by
  have hr : ∀ h ∈ headers, '\r' ∉ headerLine h := fun h hm => by
    obtain ⟨-, h₁, h₂⟩ := hh h hm
    simp [headerLine, h₁, h₂]
  have hlines : splitLines (renderResponse statusLine headers body) =
      statusLine :: (headers.map headerLine ++ [] :: splitLines body) := by
    rw [renderResponse, splitLines_append hs, splitLines_headers hr]
  have htake : (headers.map headerLine ++ [] :: splitLines body).takeWhile (· ≠ []) =
      headers.map headerLine := by
    rw [List.takeWhile_append_of_pos (by simp [headerLine]; rintro _ _ _ _ rfl; simp)]
    simp
  obtain ⟨h₁, h₂, h₃, h₄⟩ := foldl_headerStep (fun h hm => (hh h hm).1)
    { results with statusLine := statusLine,
                   statusCode := (findStatusCode statusLine).getD results.statusCode,
                   headers := fun _ => none }
  simp only [parseResponse, hlines, List.drop_one, List.tail_cons, headerLoop_eq_foldl, htake]
  exact ⟨h₁, h₂, fun key => by simpa using h₃ key, h₄⟩

theorem parseResponse_renderResponse_options :
    '\r' ∉ "SIP/2.0 200 OK".toList ∧
      (∀ h ∈ [("Allow".toList, "INVITE, ACK".toList), ("Via".toList, "SIP/2.0/UDP x".toList)],
        ':' ∉ h.1 ∧ '\r' ∉ h.1 ∧ '\r' ∉ h.2) ∧
      let r := parseResponse (renderResponse "SIP/2.0 200 OK".toList
        [("Allow".toList, "INVITE, ACK".toList), ("Via".toList, "SIP/2.0/UDP x".toList)]
        "v=0".toList) ⟨[], [], [], [], fun _ => none⟩
      r.statusLine = "SIP/2.0 200 OK".toList ∧
        r.statusCode = (findStatusCode "SIP/2.0 200 OK".toList).getD [] ∧
        (∀ key, r.headers key = lastValue [("Allow".toList, "INVITE, ACK".toList),
          ("Via".toList, "SIP/2.0/UDP x".toList)] key) ∧
        r.methods = (lastMethods [("Allow".toList, "INVITE, ACK".toList),
          ("Via".toList, "SIP/2.0/UDP x".toList)]).getD [] :=
  ⟨by decide, by decide, parseResponse_renderResponse (by decide) (by decide) _⟩

example : (parseResponse ("SIP/2.0 200 OK\r\nAllow: INVITE\r\nALLOW: ACK , BYE\r\n\r\n" ++
    "Allow: X").toList ⟨[], [], [], [], fun _ => none⟩).methods = ["ACK".toList, "BYE".toList] := by
  decide

end Fasst.Sip
