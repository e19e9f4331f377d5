/-
Formatted output.

A format is text with directives in it, and each directive shows one argument.  The format is used
again as long as it uses up arguments; where they run out, a directive shows the empty text or zero.
Numbers are calculated with in sixty-four bits.
-/
import CheckMatrix.Machine.Escapes
import CheckMatrix.Text.Decimal

namespace CheckMatrix

namespace Printf

/-- The escapes of a format. -/
def formatEscapes : EscapeStyle := ⟨false, false, false⟩

/-- The escapes of an argument that is shown with them. -/
def argumentEscapes : EscapeStyle := ⟨true, false, true⟩

/-! ### Formats -/

/-- A number in a format: it is missing, written there, or an argument. -/
inductive Amount
  | missing
  | written (n : Nat)
  | argument
  deriving DecidableEq, Repr

/-- A directive: flags, a width to fill, the most characters or fewest digits, a kind, which is
missing at the end of a format, and the directive as it is written. -/
structure Directive where
  flags : List Char
  width : Amount
  precision : Amount
  kind : Option Char
  written : String
  deriving DecidableEq, Repr

/-- A part of a format. -/
inductive Part
  | bytes (bytes : List UInt8)
  | directive (d : Directive)
  | stop
  deriving DecidableEq, Repr

/-- The characters that may stand between a percent sign and a width. -/
def isFlag (c : Char) : Bool :=
  "-0+ #".toList.contains c

/-- The amount at the front of a text, and its length. -/
def amount (text : List Char) : Amount × Nat :=
  if text.head? = some '*' then (.argument, 1)
  else
    let digits := text.takeWhile Char.isDigit
    (if digits.isEmpty then .missing else .written (Text.valueOf 10 digits), digits.length)

/-- Reads a directive behind its percent sign; with it comes its length. -/
def directive (text : List Char) : Directive × Nat :=
  let flags := text.takeWhile isFlag
  let (width, widthSize) := amount (text.drop flags.length)
  let rest := text.drop (flags.length + widthSize)
  let (precision, precisionSize) := match rest with
    | '.' :: rest =>
      match amount rest with
      | (.missing, size) => (Amount.written 0, size + 1)
      | (found, size) => (found, size + 1)
    | _ => (.missing, 0)
  let kind := (rest.drop precisionSize).head?
  let size := flags.length + widthSize + precisionSize + kind.toList.length
  (⟨flags, width, precision, kind, String.ofList ('%' :: text.take size)⟩, size)

/-- Reads a format; `skip` counts the characters that belong to a part already read. -/
def parts : (skip : Nat) → List Char → List Part
  | _, [] => []
  | skip + 1, _ :: rest => parts skip rest
  | 0, c :: rest =>
    if c = '\\' then
      match Escape.read formatEscapes rest with
      | .stop => [.stop]
      | .bytes bytes size => .bytes bytes :: parts size rest
    else if c = '%' then
      if rest.head? = some '%' then .bytes [37] :: parts 1 rest
      else
        let (d, size) := directive rest
        .directive d :: parts size rest
    else .bytes [UInt8.ofNat c.toNat] :: parts 0 rest

/-! ### Arguments -/

/-- How an argument is shown: flags, a width to fill and the most characters or fewest digits. -/
structure Field where
  flags : List Char
  width : Nat
  precision : Option Nat
  deriving DecidableEq, Repr

/-- A flag is set. -/
def Field.has (f : Field) (flag : Char) : Bool :=
  f.flags.contains flag

/-- Bytes that fill a width. -/
def Field.fill (f : Field) (bytes : List UInt8) : List UInt8 :=
  let blanks := List.replicate (f.width - bytes.length) (32 : UInt8)
  if f.has '-' then bytes ++ blanks else blanks ++ bytes

/-- A number that fills a width, which may be done with zeros; `front` stands before its digits. -/
def Field.number (f : Field) (withZeros : Bool) (front digits : List Char) : List UInt8 :=
  let least := if withZeros && f.has '0' && !f.has '-' then f.width - front.length else 0
  f.fill (Text.bytesOf
    (String.ofList (front ++ List.replicate (least - digits.length) '0' ++ digits)))

/-- The sign in front of a number. -/
def Field.sign (f : Field) (negative : Bool) : List Char :=
  if negative then ['-'] else if f.has '+' then ['+'] else if f.has ' ' then [' '] else []

/-- A whole number of a base that fills a width. -/
def Field.whole (f : Field) (base : Nat) (front : List Char) (n : Nat) : List UInt8 :=
  let digits := if n = 0 ∧ f.precision = some 0 then [] else Text.inBase base n
  let digits := List.replicate (f.precision.getD 0 - digits.length) '0' ++ digits
  let digits := if base = 8 && f.has '#' && digits.head? ≠ some '0' then '0' :: digits else digits
  f.number f.precision.isNone front digits

/-- How well an argument suits a number. -/
inductive Fit
  | whole
  | beginning
  | none
  | tooLarge
  deriving DecidableEq, Repr

/-- What tells how well an argument suits a number of which so many characters were read. -/
def fitOf (text : List Char) (size : Nat) : Fit :=
  if text.length = size then .whole else if size = 0 then .none else .beginning

/-- The sign at the front of a text without blanks, and how many characters come before digits. -/
def signOf (text : List Char) : Bool × Nat :=
  let blanks := (text.takeWhile Text.isSpace).length
  match text.drop blanks with
  | '-' :: _ => (true, blanks + 1)
  | '+' :: _ => (false, blanks + 1)
  | _ => (false, blanks)

/-- The byte behind a quote at the front of an argument, which stands for its number. -/
def quotedByte? (arg : String) : Option Nat :=
  match Text.bytesOf arg with
  | quote :: byte :: _ => if quote = 39 ∨ quote = 34 then some byte.toNat else none
  | _ => none

/-- The number that an argument stands for, and how well it does: a numeral of a base that its
beginning tells, within the bounds of a word with a sign or without one. -/
def wholeOf (signed : Bool) (arg : String) : Int × Fit :=
  match quotedByte? arg with
  | some n => (n, .whole)
  | none =>
    let text := arg.toList
    let (negative, size) := signOf text
    let digits := text.drop size
    let isHex := ("0x".toList.isPrefixOf digits || "0X".toList.isPrefixOf digits) &&
      (((digits.drop 2).head?.map (Text.isDigitOf 16)).getD false)
    let base := if isHex then 16 else if digits.head? = some '0' then 8 else 10
    let start := if isHex then 2 else 0
    let run := (digits.drop start).takeWhile (Text.isDigitOf base)
    let fit := fitOf text (if run.isEmpty then 0 else size + start + run.length)
    let value : Nat := Text.valueOf base run
    let most : Nat :=
      if signed then Nat.pow 2 63 - (if negative then 0 else 1) else Nat.pow 2 64 - 1
    if value > most ∧ fit = .whole then
      (if negative && signed then -(most : Int) else most, .tooLarge)
    else (if negative then -(min value most : Int) else min value most, fit)

/-- A number as an unsigned word. -/
def unsigned (n : Int) : Nat :=
  (n % Nat.pow 2 64).toNat

/-- A decimal number with a sign, unless it is none of the numbers. -/
inductive Real
  | number (negative : Bool) (size : Text.Ratio)
  | word (negative : Bool) (text : String)
  deriving DecidableEq, Repr

/-- The length of what stands in parentheses at the front of a text, if that is a word. -/
def detailSize : List Char → Nat
  | '(' :: rest =>
    let word := rest.takeWhile fun c => c.isAlphanum || c = '_'
    if (rest.drop word.length).head? = some ')' then word.length + 2 else 0
  | _ => 0

/-- The number that an argument stands for. -/
def realOf (arg : String) : Real × Fit :=
  match quotedByte? arg with
  | some n => (.number false ⟨n, 1⟩, .whole)
  | none =>
    let text := arg.toList
    let (negative, size) := signOf text
    let rest := text.drop size
    match ["infinity", "inf", "nan"].find? fun word =>
      word.toList.isPrefixOf (rest.map Char.toLower) with
    | some word =>
      let detail := if word = "nan" then detailSize (rest.drop 3) else 0
      (.word negative (String.ofList (word.toList.take 3)),
        fitOf text (size + word.length + detail))
    | none =>
      match Text.ratio? rest with
      | some (r, count) =>
        let fit := fitOf text (size + count)
        let isOut := Text.BinaryFormat.double.isOutOfRange r
        let fit := if fit = .whole && isOut then .tooLarge else fit
        match Text.BinaryFormat.double.nearest? r with
        | some found => (.number negative found, fit)
        | none => (.word negative "inf", fit)
      | none => (.number false ⟨0, 1⟩, fitOf text 0)

/-- A number in the notation of a directive. -/
def Field.real (f : Field) (kind : Char) (r : Real) : List UInt8 :=
  let letter := if kind.isUpper then 'E' else 'e'
  let case := fun (text : List Char) => if kind.isUpper then text.map Char.toUpper else text
  match r with
  | .word negative text => f.number false (f.sign negative) (case text.toList)
  | .number negative r =>
    let places := f.precision.getD 6
    if kind.toLower = 'a' then
      f.number true (f.sign negative ++ case ['0', 'x'])
        (case (Text.hexadecimal .double (f.has '#') f.precision r))
    else
    let digits := match kind.toLower with
      | 'f' => Text.fixed (f.has '#') places r
      | 'e' => Text.scientific (f.has '#') places letter r
      | _ => Text.general (f.has '#') places letter r
    f.number true (f.sign negative) digits

/-- What comes of a directive: bytes, how well the argument suited it, and whether output ends. -/
def show? (f : Field) (kind : Char) (arg : String) : Option (List UInt8 × Fit × Bool) :=
  let cut (bytes : List UInt8) := match f.precision with
    | some most => bytes.take most
    | none => bytes
  let signed : List UInt8 × Fit × Bool :=
    let (n, fit) := wholeOf true arg
    (f.whole 10 (f.sign (n < 0)) n.natAbs, fit, false)
  let plain (base : Nat) (front : String) : List UInt8 × Fit × Bool :=
    let (n, fit) := wholeOf false arg
    let front := if f.has '#' && unsigned n ≠ 0 then front.toList else []
    (f.whole base front (unsigned n), fit, false)
  let real : List UInt8 × Fit × Bool :=
    let (r, fit) := realOf arg
    (f.real kind r, fit, false)
  match kind with
  | 's' => some (f.fill (cut (Text.bytesOf arg)), .whole, false)
  | 'b' =>
    let (bytes, stops) := unescape argumentEscapes 0 arg.toList
    some (f.fill (cut bytes), .whole, stops)
  | 'c' => some (f.fill [(Text.bytesOf arg).headD 0], .whole, false)
  | 'd' => some signed
  | 'i' => some signed
  | 'u' => some (plain 10 "")
  | 'o' => some (plain 8 "")
  | 'x' => some (plain 16 "0x")
  | 'X' =>
    let (bytes, fit, stops) := plain 16 "0x"
    some (bytes.map fun b => if 97 ≤ b && b ≤ 122 then b - 32 else b, fit, stops)
  | _ => if "aAfFeEgG".toList.contains kind then some real else none

/-! ### Output -/

/-- What was put out so far and what is wrong with it, each in order, and the code that tells of it.
-/
structure Progress where
  output : List (List UInt8)
  faults : List String
  code : Nat
  stopped : Bool

/-- Nothing was put out yet. -/
def Progress.start : Progress :=
  ⟨[], [], 0, false⟩

/-- The progress with more bytes. -/
def Progress.put (s : Progress) (bytes : List UInt8) : Progress :=
  { s with output := s.output ++ [bytes] }

/-- The progress with one more thing that is wrong. -/
def Progress.blame (s : Progress) (code : Nat) (fault : String) : Progress :=
  { s with faults := s.faults ++ [fault], code }

/-- The progress with what is said about how well an argument suits a number. -/
def Progress.judge (s : Progress) (arg : String) : Fit → Progress
  | .whole => s
  | .beginning => s.blame 1 (arg ++ ": not completely converted")
  | .none => s.blame 1 (arg ++ ": expected numeric value")
  | .tooLarge => s.blame 1 (arg ++ ": Numerical result out of range")

/-- The progress when output ends before the format does. -/
def Progress.stop (s : Progress) : Progress :=
  { s with stopped := true }

/-- The code of a format or a call that means nothing. -/
def faultCode : Nat := 2

/-- The progress when the format means nothing from here on. -/
def Progress.refuse (s : Progress) (fault : String) : Progress :=
  (s.blame faultCode fault).stop

/-- An amount, which may use up an argument.  Amounts are words of thirty-two bits. -/
def take (args : List String) (s : Progress) : Amount → Option Int × List String × Progress
  | .missing => (none, args, s)
  | .written n => (some n, args, s)
  | .argument =>
    let arg := args.headD ""
    let (n, fit) := wholeOf true arg
    (some (Int.bmod n (Nat.pow 2 32)), args.tail, s.judge arg fit)

/-- Carries out a directive; the arguments that are left come with the progress. -/
def carryOut (d : Directive) (args : List String) (s : Progress) : List String × Progress :=
  let (width, args, s) := take args s d.width
  let (precision, args, s) := take args s d.precision
  let within (n : Int) : Int := if n.natAbs < Nat.pow 2 31 then n else 0
  let turned := (width.getD 0) < 0
  let field : Field := ⟨if turned then '-' :: d.flags else d.flags,
    (within (width.getD 0)).natAbs, ((precision.map within).filter (0 ≤ ·)).map Int.toNat⟩
  match d.kind with
  | none => (args, s.refuse "missing format character")
  | some kind =>
    let arg := args.headD ""
    match show? field kind arg with
    | none => (args, s.refuse (d.written ++ ": invalid directive"))
    | some (bytes, fit, stops) =>
      let s := (s.judge arg fit).put bytes
      (args.tail, if stops then s.stop else s)

/-- Goes through the parts of a format once; the arguments that are left come with the progress. -/
def once : List Part → List String → Progress → List String × Progress
  | [], args, s => (args, s)
  | .stop :: _, args, s => (args, s.stop)
  | .bytes bytes :: rest, args, s => once rest args (s.put bytes)
  | .directive d :: rest, args, s =>
    let (args, s) := carryOut d args s
    if s.stopped then (args, s) else once rest args s

/-- Goes through a format again, at most `bound` times, while arguments are left. -/
def again (format : List Part) : (bound : Nat) → List String → Progress → Progress
  | 0, _, s => s
  | bound + 1, args, s =>
    if args.isEmpty ∨ s.stopped then s
    else
      let (left, s) := once format args s
      if left.length < args.length then again format bound left s else s

/-- Shows arguments under a format. -/
def run (format : String) (args : List String) : Progress :=
  let format := parts 0 format.toList
  let (left, s) := once format args .start
  if left.length < args.length then again format left.length left s else s

end Printf

end CheckMatrix
