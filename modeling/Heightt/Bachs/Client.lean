import Heightt.Schema.Encodings
import Mathlib.Algebra.Order.Ring.Rat

/-!
# BachsClient

`verifyWebhookSignature` of `bachs.client.ts`: the header is taken apart at spaces and commas,
and one of its parts has to be the HMAC of the timestamp and the raw body.
-/

namespace Heightt.Bachs

open Text

/-- What HMAC-SHA256 gives: 32 bytes. -/
abbrev Digest := {d : Bytes // d.length = 32}

structure BachsClient where
  nodeEnv : Option String := some "production"
  /-- `BACHS_WEBHOOK_SECRET` -/
  secret : Option Text
  /-- `BACHS_WEBHOOK_TOLERANCE` -/
  tolerance : Option ℚ := none
  /-- `createHmac('sha256', key).update(message).digest()` -/
  hmac : Bytes → Bytes → Digest

inductive Payload where
  | buffer (bytes : Bytes)
  | string (text : Text)

def Payload.rawBody : Payload → Bytes
  | buffer bytes => bytes
  | string text => utf8 text

/-- `[ ,]` -/
def separator (u : UInt16) : Bool := u = 32 ∨ u = 44

/-- `v\d+` -/
def version : Pattern UInt16 := literal "v" ++ [.one digit, .greedy digit]

/-- `sha256=|v\d+=|v\d+,` -/
def prefixes : List (Pattern UInt16) := [literal "sha256=", version ++ literal "=", version ++ literal ","]

/-- The part is `v\d+` as a whole. -/
def versionMarker (part : Text) : Bool := (Pattern.rests version part).any List.isEmpty

/-- The part after the first of the prefixes that it starts with. -/
def withoutPrefix (part : Text) : Text :=
  (prefixes.findSome? fun q => (Pattern.rests q part).head?).getD part

/-- Where separators follow each other, there are empty parts, which are left out with the others. -/
def suppliedSignatures (signature : Text) : List Text :=
  let parts := (signature.splitOnP separator).map trim
  ((parts.filter (· ≠ [])).filter fun part => !versionMarker part).map withoutPrefix

def encodings (supplied : Text) : List Bytes :=
  (if supplied.length = 64 ∧ supplied.all hexDigit then [fromHex supplied] else []) ++ [fromBase64 supplied]

def secretCandidates (secret : Text) : List Bytes :=
  utf8 secret :: if units "whsec_" <+: secret then [fromBase64 (secret.drop 6)] else []

namespace BachsClient

variable (client : BachsClient)

def isDev : Bool := client.nodeEnv ≠ some "production"

def toleranceSeconds : ℚ := client.tolerance.getD 300

/-- The time in seconds that a clock of milliseconds shows is near enough. -/
def fresh (now : Nat) (timestamp : Text) : Bool :=
  match number timestamp with
  | none => false
  | some timestampSeconds => !decide (client.toleranceSeconds < |(now : ℚ) / 1000 - timestampSeconds|)

/-- `timestamp.body` -/
def signedPayload (payload : Payload) (timestamp : Text) : Bytes := utf8 (timestamp ++ units ".") ++ payload.rawBody

def isMatch (secret : Text) (payload : Payload) (signature timestamp : Text) : Bool :=
  (secretCandidates secret).any fun key =>
    let digest := client.hmac key (signedPayload payload timestamp)
    (suppliedSignatures signature).any fun supplied => (encodings supplied).any fun candidate => candidate = digest

def verifyWebhookSignature (now : Nat) (payload : Payload) (signature timestamp : Text) : Bool :=
  match client.secret with
  | none | some [] => client.isDev
  | some secret =>
    if signature = [] ∨ timestamp = [] then client.isDev
    else if ¬client.fresh now timestamp then false
    else if client.isDev ∧ (signature = units "test_signature" ∨ signature = units "skip") then true
    else client.isMatch secret payload signature timestamp

end BachsClient

end Heightt.Bachs
