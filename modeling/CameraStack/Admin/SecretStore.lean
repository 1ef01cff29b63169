/-
# The secret store

`camera-secrets.env` is a list of `KEY=VALUE` lines with comments between them.  Rotating
a secret or setting a field reads it into a dictionary, sets one key, and writes the file
again line by line: a line whose key is in capitals gets the dictionary's value, any other
line stays, and what no line was found for goes behind them.

The reader is wider than the writer.  It takes any key and drops one pair of quotes around
a value; the writer finds keys in capitals only and puts no quotes back.
-/

import CameraStack.Lib.Lines
import CameraStack.Lib.PyDict
import CameraStack.Runtime.EnvWriter

namespace CameraStack.Admin.SecretStore

open CameraStack.Lib
open CameraStack.Runtime.EnvWriter (sensitiveKeys)

/-! ## Reading -/

/-- A value without the pair of quotes around it. -/
def unquote (value : List Char) : List Char :=
  if (value.head? = some '"' ∧ value.getLast? = some '"') ∨
      (value.head? = some '\'' ∧ value.getLast? = some '\'') then
    (value.drop 1).dropLast
  else value

/-- One line of the loop of `_parse_env_file`. -/
def parseEntry (raw : List Char) : Option (String × String) :=
  let line := stripChars raw
  if line = [] ∨ line.head? = some '#' then none
  else
    match line.dropWhile (· ≠ '=') with
    | [] => none
    | _ :: value =>
        some (String.ofList (stripChars (line.takeWhile (· ≠ '='))),
          String.ofList (unquote (stripChars value)))

/-- `_parse_env_file`, by the lines of the text. -/
def parseLines (lines : List (List Char)) : PyDict String :=
  PyDict.empty.setMany (lines.filterMap parseEntry)

/-- `_parse_env_file`. -/
def parseEnvFile (text : String) : PyDict String := parseLines (splitLines text.toList)

/-- A line that is neither blank nor a comment. -/
def meaningful (line : List Char) : Bool :=
  stripChars line ≠ [] && (stripChars line).head? ≠ some '#'

/-- The file has content but no keys. -/
structure StoreCorrupt : Type where
  deriving DecidableEq

/-- `_load` of a file that decodes; `none` is its absence. -/
def load (file : Option String) : Except StoreCorrupt (PyDict String) :=
  match file with
  | none => .ok PyDict.empty
  | some text =>
      if (parseEnvFile text).entries = [] ∧
          (splitLines text.toList).filter meaningful ≠ [] then .error {}
      else .ok (parseEnvFile text)

/-! ## Writing -/

/-- `[A-Z_]`. -/
def isKeyStart (c : Char) : Bool := c.isUpper || c = '_'

/-- `[A-Z0-9_]`. -/
def isKeyChar (c : Char) : Bool := isKeyStart c || c.isDigit

/-- The group of `^\s*([A-Z_][A-Z0-9_]*)\s*=` on a line. -/
def matchKey (line : List Char) : Option (List Char) :=
  match line.dropWhile isPySpace with
  | [] => none
  | c :: cs =>
      if isKeyStart c then
        match ((c :: cs).dropWhile isKeyChar).dropWhile isPySpace with
        | '=' :: _ => some ((c :: cs).takeWhile isKeyChar)
        | _ => none
      else none

/-- The key the pattern finds on a line, if the dictionary has it. -/
def knownKey (values : PyDict String) (line : List Char) : Option String :=
  ((matchKey line).map String.ofList).filter fun key => key ∈ values.keys

/-- `f"{k}={v}"`. -/
def envLine (key value : String) : List Char := key.toList ++ '=' :: value.toList

/-- The comments and blank lines above the first key. -/
def headerLines (lines : List (List Char)) : List (List Char) :=
  lines.takeWhile fun line => line.head? = some '#' || stripChars line = []

/-- The line that is written for one that was read. -/
def rendered (values : PyDict String) (line : List Char) : List Char :=
  match knownKey values line with
  | none => line
  | some key => envLine key ((values.get? key).getD "")

/-- The keys that were found in the header and in the file. -/
def seenKeys (values : PyDict String) (lines : List (List Char)) : List String :=
  (headerLines lines).filterMap (knownKey values) ++ lines.filterMap (knownKey values)

/-- The lines `_save_env` writes over those of a file. -/
def savedLines (values : PyDict String) (lines : List (List Char)) : List (List Char) :=
  lines.map (rendered values) ++
    (values.entries.filter fun entry => entry.1 ∉ seenKeys values lines).map
      fun entry => envLine entry.1 entry.2

/-- The comment a new file begins with. -/
def newHeader : List Char := "# Auto-managed by camera-page admin_config".toList

/-- `_save_env`: the text of the file after it. -/
def saveEnv (file : Option String) (values : PyDict String) : String :=
  String.ofList <| terminated <|
    match file with
    | some text => joinLines (savedLines values (splitLines text.toList))
    | none =>
        newHeader ++ '\n' ::
          joinLines (values.entries.map fun entry => envLine entry.1 entry.2)

/-! ## Time stamps -/

/-- `_load_timestamps`. -/
def loadTimestamps (file : Option String) : Dict ℤ :=
  (∅ : Dict ℤ).insertMany <| (file.elim [] fun text => splitLines text.toList).filterMap fun line =>
    match line.dropWhile (· ≠ '=') with
    | [] => none
    | _ :: value =>
        (intOfChars (stripChars value)).map fun n =>
          (String.ofList (stripChars (line.takeWhile (· ≠ '='))), n)

/-- `_save_timestamps`. -/
def saveTimestamps (stamps : Dict ℤ) : String :=
  String.ofList (joinLines (stamps.toList.map fun entry => envLine entry.1 (toString entry.2)) ++
    ['\n'])

/-! ## Generating -/

/-- `_BASE64URL_KEYS`. -/
def base64urlKeys : List String :=
  ["STREAMING_ADMIN_KEY", "JANUS_STREAMING_ADMIN_KEY", "STREAMING_RGB_MP_SECRET",
    "TEXTROOM_ROOM_SECRET"]

def hexAlphabet : List Char := "0123456789abcdef".toList

def urlsafeAlphabet : List Char :=
  "ABCDEFGHIJKLMNOPQRSTUVWXYZabcdefghijklmnopqrstuvwxyz0123456789-_".toList

/-- The six-bit groups of some bytes, the last one filled with zeros. -/
def sextets : List ℕ → List ℕ
  | a :: b :: c :: rest =>
      [a / 4, a % 4 * 16 + b / 16, b % 16 * 4 + c / 64, c % 64] ++ sextets rest
  | [a, b] => [a / 4, a % 4 * 16 + b / 16, b % 16 * 4]
  | [a] => [a / 4, a % 4 * 16]
  | [] => []

/-- `secrets.token_urlsafe` of the bytes that were drawn. -/
def tokenUrlsafe (draw : List UInt8) : String :=
  String.ofList ((sextets (draw.map UInt8.toNat)).map fun n => urlsafeAlphabet.getD n 'A')

/-- `secrets.token_hex` of the bytes that were drawn. -/
def tokenHex (draw : List UInt8) : String :=
  String.ofList ((draw.flatMap fun byte => [byte.toNat / 16, byte.toNat % 16]).map fun n =>
    hexAlphabet.getD n '0')

/-- `_generate`. -/
def generate (key : String) (draw : List UInt8) : String :=
  if key ∈ base64urlKeys then tokenUrlsafe draw else tokenHex draw

/-! ## The operations -/

/-- The secrets and the time stamps, by their texts. -/
structure Store where
  env : Option String
  timestamps : Option String
  deriving DecidableEq

/-- What an operation raises. -/
inductive Raised
  | useRotate (key : String)
  | corrupt
  deriving DecidableEq

/-- `reveal`. -/
def reveal (store : Store) (key : String) : Except StoreCorrupt (Option String) :=
  match load store.env with
  | .error e => .error e
  | .ok values => .ok (values.get? key)

/-- `rotate`, with the 32 bytes it draws and the time it reads. -/
def rotate (key : String) (draw : List UInt8) (now : ℕ) (store : Store) :
    Except Raised (String × Store) :=
  match load store.env with
  | .error _ => .error .corrupt
  | .ok values =>
      let newValue := generate key draw
      .ok (newValue,
        { env := some (saveEnv store.env (values.set key newValue))
          timestamps := some (saveTimestamps ((loadTimestamps store.timestamps).insert key now)) })

/-- `set_field`. -/
def setField (key value : String) (store : Store) : Except Raised Store :=
  if key ∈ sensitiveKeys then .error (.useRotate key)
  else
    match load store.env with
    | .error _ => .error .corrupt
    | .ok values => .ok { store with env := some (saveEnv store.env (values.set key value)) }

/-- `SetFieldRequest`: the pattern `^[A-Z][A-Z0-9_]*$` of the key and the length of the value. -/
def validRequest (key value : String) : Bool :=
  (match key.toList with
    | [] => false
    | c :: cs => c.isUpper && cs.all isKeyChar) &&
  value.length ≤ 512

example : (rotate "CAM_ADMIN_TOKEN" [0, 255] 7
      { env := some "# kept\nA = 1\nlower=2\n", timestamps := none }).toOption =
    some ("00ff",
      { env := some "# kept\nA=1\nlower=2\nlower=2\nCAM_ADMIN_TOKEN=00ff\n"
        timestamps := some "CAM_ADMIN_TOKEN=7\n" }) := by
  decide +kernel

end CameraStack.Admin.SecretStore
