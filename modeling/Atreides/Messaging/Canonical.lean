import Atreides.Foundation.Text
import Atreides.Kernel

/-!
# The canonical cash leg

One internal settlement model that serialises out to a network's messages and validates
in on readback. An institution carries a well-formed identifier, and an instruction what
the mandatory message path needs, so neither can be built malformed.

## Main definitions

* `FinancialInstitution`, `CashLegInstruction` — the canonical model
* `CashLegInstruction.validate` — the checks an instruction passes when it is built
-/

namespace Atreides

/-- The settlement methods a message can declare. -/
inductive SettlementMethod
  | instructedAgent
  | instructingAgent
  | cover
  | clearingSystem
  deriving DecidableEq, Repr

def SettlementMethod.value : SettlementMethod → String
  | instructedAgent => "INDA"
  | instructingAgent => "INGA"
  | cover => "COVE"
  | clearingSystem => "CLRG"

/-! ## Patterns -/

def isCapital (c : Char) : Bool := 'A' ≤ c && c ≤ 'Z'

def isCapitalOrDigit (c : Char) : Bool := isCapital c || ('0' ≤ c && c ≤ '9')

/-- The text an end-anchored pattern sees: one line feed at the end is not part of it. -/
def beforeFinalNewline (s : String) : List Char :=
  match s.toList.reverse with
  | c :: rest => if c.toNat = 10 then rest.reverse else s.toList
  | [] => []

/-- Four letters or digits, two letters, two letters or digits, and three more or none. -/
def matchesBicfi (s : String) : Bool :=
  let chars := beforeFinalNewline s
  (chars.length = 8 || chars.length = 11) && (chars.take 4).all isCapitalOrDigit &&
    ((chars.drop 4).take 2).all isCapital && (chars.drop 6).all isCapitalOrDigit

/-- Three capital letters. -/
def matchesCurrency (s : String) : Bool :=
  let chars := beforeFinalNewline s
  chars.length = 3 && chars.all isCapital

/-- The pattern an identifier is matched against, as a refusal quotes it. -/
def bicfiPattern : String := "^[A-Z0-9]\x7b4\x7d[A-Z]\x7b2\x7d[A-Z0-9]\x7b2\x7d([A-Z0-9]\x7b3\x7d)?$"

/-! ## Institutions -/

/-- The checks an institution passes when it is built. -/
def FinancialInstitution.validate (bicfi : String) (name : Option String) : Outcome Unit :=
  if !matchesBicfi bicfi then
    .error (.valueError ("invalid BICFI " ++ quoted bicfi ++ " — must match " ++ bicfiPattern ++
      " per BICFIDec2014Identifier"))
  else if name.any fun text => !(1 ≤ text.length && text.length ≤ 140) then
    .error (.valueError "name must be 1..140 characters (Max140Text)")
  else .ok ()

/-- A party to the cash leg, with a well-formed identifier. -/
structure FinancialInstitution where
  bicfi : String
  name : Option String := none
  valid : FinancialInstitution.validate bicfi name = .ok () := by decide
  deriving DecidableEq

/-! ## Instructions -/

/-- What a cash-leg settlement instruction states. -/
structure CashLegFields where
  messageId : String
  endToEndId : String
  createdAt : Timestamp
  amount : Decimal
  currency : String
  debtor : FinancialInstitution
  creditor : FinancialInstitution
  settlementMethod : SettlementMethod
  sender : FinancialInstitution
  receiver : FinancialInstitution
  dsorLineageUri : Option String := none
  deriving DecidableEq

/-- The longest identifier a message carries. -/
def max35 : ℕ := 35

/-- An identifier fits the message's text type. -/
def checkIdentifierLength (field value : String) : Outcome Unit :=
  if 1 ≤ value.length ∧ value.length ≤ max35 then .ok ()
  else .error (.valueError (field ++ " must be 1.." ++ toString max35 ++
    " characters (Max35Text); got " ++ toString value.length))

/-- An amount is finite, positive, and within the digits a message carries. -/
def checkAmount : Decimal → Outcome Unit
  | .finite d =>
    if d.le 0 then .error (.valueError "amount must be positive")
    else
      let fractionDigits := (max (-d.exponent) 0).toNat
      let totalDigits := digitCount d.coefficient + (max d.exponent 0).toNat
      if 18 < totalDigits ∨ 5 < fractionDigits then
        .error (.valueError "amount exceeds ISO 20022 totalDigits=18 or fractionDigits=5")
      else .ok ()
  | _ => .error (.valueError "amount must be finite")

/-- An identifier carries no control character. -/
def checkControlCharacters (field value : String) : Outcome Unit :=
  if value.toList.any fun c => c.toNat < 32 then
    .error (.valueError (field ++ " contains a control character"))
  else .ok ()

/-- The checks an instruction passes when it is built, in order. -/
def CashLegInstruction.validate (fields : CashLegFields) : Outcome Unit := do
  checkIdentifierLength "message_id" fields.messageId
  checkIdentifierLength "end_to_end_id" fields.endToEndId
  checkAmount fields.amount
  if !matchesCurrency fields.currency then
    throw (.valueError ("currency " ++ quoted fields.currency ++
      " must be a 3-letter ActiveCurrencyCode"))
  if fields.createdAt.utcOffset = none then
    throw (.valueError ("created_at must be timezone-aware — ISODateTime on the wire is " ++
      "unambiguous and a naive timestamp silently asserts the emitter's local zone"))
  if fields.debtor.bicfi = fields.creditor.bicfi then
    throw (.valueError "debtor and creditor BICFI must differ")
  checkControlCharacters "message_id" fields.messageId
  checkControlCharacters "end_to_end_id" fields.endToEndId

/-- One cash-leg settlement instruction that passed its checks. -/
structure CashLegInstruction extends CashLegFields where
  valid : CashLegInstruction.validate toCashLegFields = .ok ()
  deriving DecidableEq

/-- An instruction's amount is finite. -/
theorem CashLegInstruction.amount_finite (instruction : CashLegInstruction) :
    ∃ d, instruction.amount = .finite d := by
  have hvalid := instruction.valid
  simp only [CashLegInstruction.validate, Outcome.bind_eq_ok] at hvalid
  obtain ⟨_, -, _, -, _, hamount, -⟩ := hvalid
  rcases h : instruction.amount with d | negative | ⟨negative, signaling, payload⟩
  · exact ⟨d, rfl⟩
  · rw [h] at hamount
    cases hamount
  · rw [h] at hamount
    cases hamount

end Atreides
