import TaintFlow.Json.Reader
import TaintFlow.Text.Affix
import TaintFlow.Text.Decimal

/-!
# Roots of storage locations

A root is an argument, the return value, or one of the synthetic starting points for leaf frames,
for flows into other code bases and for call effects.  Roots are encoded in 32 bits: the arguments
from zero on, the other roots at the upper end.  The order of roots is the order of their encodings.

`Root.decode_encode` and `Root.encode_of_decode` say that the encoding loses nothing.
-/

namespace TaintFlow

/-- A position of an argument.  The eight encodings above are those of the other roots. -/
abbrev ArgumentPosition := Fin 4294967288

/-- Where a storage location starts. -/
inductive Root where
  | argument (position : ArgumentPosition)
  | returnValue
  /-- The port of a leaf frame. -/
  | leaf
  /-- A connection to another code base that was found here. -/
  | anchor
  /-- A connection to another code base that was found there. -/
  | producer
  /-- The receiver as other analyzers number it.  It cannot be configured. -/
  | canonicalThis
  | callChain
  | callChainExploitability
  | callEffectIntent
  deriving DecidableEq

namespace Root

/-- The encoding in 32 bits. -/
def encode : Root → UInt32
  | .argument position => UInt32.ofNat position.val
  | .returnValue => 4294967295
  | .leaf => 4294967294
  | .anchor => 4294967293
  | .producer => 4294967292
  | .canonicalThis => 4294967291
  | .callChain => 4294967290
  | .callChainExploitability => 4294967289
  | .callEffectIntent => 4294967288

/-- The root with a given encoding. -/
def decode (encoding : UInt32) : Option Root :=
  if h : encoding.toNat < 4294967288 then some (.argument ⟨encoding.toNat, h⟩)
  else
    match encoding.toNat with
    | 4294967295 => some .returnValue
    | 4294967294 => some .leaf
    | 4294967293 => some .anchor
    | 4294967292 => some .producer
    | 4294967291 => some .canonicalThis
    | 4294967290 => some .callChain
    | 4294967289 => some .callChainExploitability
    | 4294967288 => some .callEffectIntent
    | _ => none

theorem decode_encode (r : Root) : decode r.encode = some r := by
  cases r with
  | argument position =>
      have same : (UInt32.ofNat position.val).toNat = position.val :=
        UInt32.toNat_ofNat_of_lt' (show position.val < 2 ^ 32 by omega)
      have small : (UInt32.ofNat position.val).toNat < 4294967288 := same.symm ▸ position.isLt
      rw [encode, decode, dif_pos small]
      simp only [same]
  | _ => rfl

theorem encode_of_decode {encoding : UInt32} {r : Root} (h : decode encoding = some r) :
    r.encode = encoding := by
  apply UInt32.toNat_inj.1
  simp only [decode] at h
  split at h
  next small =>
    obtain rfl := Option.some.inj h
    simp [encode]
  next => split at h <;> cases h <;> simp_all [encode]

theorem encode_injective {r s : Root} (h : r.encode = s.encode) : r = s := by
  have := congrArg decode h
  simpa [decode_encode] using this

instance : Ord Root := ⟨compareOn encode⟩

instance : Std.TransOrd Root := inferInstanceAs (Std.TransCmp (compareOn encode))

instance : Std.LawfulEqOrd Root where
  eq_of_compare {a b} h := by
    have h : compareOn encode a b = .eq := h
    simp only [compareOn, Std.LawfulEqCmp.compare_eq_iff_eq] at h
    exact encode_injective h

/-- The argument root at a position, which must not be the encoding of another root. -/
def ofPosition (position : Nat) : Checked Root :=
  if h : position < 4294967288 then .ok (.argument ⟨position, h⟩)
  else .error (.contract (.argumentPosition position))

def isArgument : Root → Bool
  | .argument _ => true
  | _ => false

/-- Is the root the port of a leaf frame? -/
def isLeafPort : Root → Bool
  | .leaf | .anchor | .producer => true
  | _ => false

/-- Does the root stand for an effect of a call? -/
def isCallEffect : Root → Bool
  | .callChain | .callChainExploitability | .callEffectIntent => true
  | _ => false

/-- Does the root only feed the inputs of propagations inside a method? -/
def isLocalPropagationInput : Root → Bool
  | .callEffectIntent => true
  | _ => false

def toText : Root → String
  | .argument position => "Argument(" ++ toString position.val ++ ")"
  | .returnValue => "Return"
  | .leaf => "Leaf"
  | .anchor => "Anchor"
  | .producer => "Producer"
  | .canonicalThis => "Argument(-1)"
  | .callChain => "call-chain"
  | .callChainExploitability => "call-chain-exploitability"
  | .callEffectIntent => "call-effect-intent"

/-- The position of an argument root. -/
def position : Root → Checked ArgumentPosition
  | .argument position => .ok position
  | root => .error (.contract (.positionOfRoot root.toText))

/-- The roots that are read by their name. -/
def configurable : List Root :=
  [.returnValue, .leaf, .anchor, .producer, .callChain, .callChainExploitability,
    .callEffectIntent]

end Root

/-- Reads a position: digits alone, with a value that is a position of an argument. -/
def ArgumentPosition.ofText? (text : String) : Option ArgumentPosition :=
  (Decimal.read? text).bind fun n => if h : n < 4294967288 then some ⟨n, h⟩ else none

namespace Root

/-- Reads a root.  The receiver of other analyzers has a text, but it is not accepted here. -/
def ofText (text : String) : Checked Root :=
  match (Affix.between? "Argument(" ")" text).filter (· ≠ "") with
  | some digits =>
      match ArgumentPosition.ofText? digits with
      | some position => .ok (.argument position)
      | none => .error (.validation text none (.argumentRoot text))
  | none =>
      match configurable.find? (·.toText = text) with
      | some root => .ok root
      | none => .error (.validation text none .root)

def toJson (r : Root) : Json := .string r.toText

def ofJson (v : Json) : Checked Root := do ofText (← v.text)

end Root

end TaintFlow
