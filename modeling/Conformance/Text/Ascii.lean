/-!
ASCII case folding and plain substring tests.

Only `A`–`Z` and `a`–`z` are folded; every other character compares as itself. Prefixes and
suffixes given by a length in UTF-8 bytes exist only when that length ends on a character
boundary.
-/

set_option autoImplicit false

namespace Conformance.Text

/-- The text with `A`–`Z` lowered, every other character kept. -/
def asciiLower (s : String) : String := String.ofList (s.toList.map Char.toLower)

/-- Equality up to the case of ASCII letters. -/
def eqIgnoreAsciiCase (a b : String) : Bool := asciiLower a == asciiLower b

/-- Whether the second list occurs in the first as a contiguous run. -/
def infixOf (hay needle : List Char) : Bool :=
  match hay with
  | [] => needle.isEmpty
  | c :: rest => needle.isPrefixOf (c :: rest) || infixOf rest needle

/-- Whether `needle` occurs in `s`. -/
def containsText (s needle : String) : Bool := infixOf s.toList needle.toList

/-- The first characters of `s` that take exactly `bytes` UTF-8 bytes, if such a prefix
exists. -/
def bytePrefix (s : String) (bytes : Nat) : Option String :=
  go s.toList bytes []
where
  /-- Takes characters while bytes remain; `acc` holds those taken, latest first. -/
  go : List Char → Nat → List Char → Option String
    | _, 0, acc => some (String.ofList acc.reverse)
    | [], _ + 1, _ => none
    | c :: rest, n + 1, acc =>
      if c.utf8Size ≤ n + 1 then go rest (n + 1 - c.utf8Size) (c :: acc) else none

/-- The last characters of `s` that take exactly `bytes` UTF-8 bytes, if such a suffix
exists. -/
def byteSuffix (s : String) (bytes : Nat) : Option String :=
  (bytePrefix (String.ofList s.toList.reverse) bytes).map fun t => String.ofList t.toList.reverse

end Conformance.Text
