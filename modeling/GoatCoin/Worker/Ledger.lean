/-
# `GoatCoin.Worker.Ledger` — `caps.rs` and `indicator.rs`: the bytes of a day and the liveness gate

The day's total is in a file.  A debit reads it, and writes the new total or, past the ceiling, the
ceiling:

    read   absent, or of an earlier day        0
           of this day                         its total
           of a later day, or not readable     a refusal
    write  total + bytes ≤ ceiling             the sum
           total + bytes > ceiling             the ceiling, and a refusal

A file is kept by what reading it gives, and a total by its value.
-/
import GoatCoin.Worker.Address

namespace GoatCoin.Worker

/-! ## The ledger -/

inductive CapError where
  | unavailable (detail : String)
  | dailyCeilingReached
  | outsideSchedule
deriving DecidableEq

/-- A rate, and the burst it allows. -/
structure TokenBucket where
  rateBytesPerSec : Nat
  capacityBytes : Nat
deriving DecidableEq

def minRateBytesPerSec : Nat := 8000

def maxRateBytesPerSec : Nat := 12500000

/-- A rate in the band, with one second of it as the burst. -/
def TokenBucket.atRate (rateBytesPerSec : Nat) : TokenBucket :=
  let rate := max minRateBytesPerSec (min rateBytesPerSec maxRateBytesPerSec)
  ⟨rate, rate⟩

inductive LedgerFile where
  | absent
  | unreadable (kind : String)
  /-- Not JSON, or not of the schema. -/
  | invalid (e : String)
  | state (schemaId : String) (utcDay : Nat) (spentBytes : Except String Nat)
deriving DecidableEq

def ledgerSchemaId : String := "GOAT_PROXY_EGRESS_LEDGER_V1"

def minDailyByteCap : Nat := 1000000000

def maxDailyByteCap : Nat := 200000000000

def secondsPerUtcDay : Nat := 86400

/-- A ledger whose ceiling is in the operator's band. -/
structure EgressLedger where
  ceilingBytes : Nat
  file : LedgerFile
  band : minDailyByteCap ≤ ceilingBytes ∧ ceilingBytes ≤ maxDailyByteCap

def EgressLedger.new (file : LedgerFile) (ceilingBytes : Nat) : EgressLedger where
  ceilingBytes := max minDailyByteCap (min ceilingBytes maxDailyByteCap)
  file := file
  band := ⟨Nat.le_max_left _ _, Nat.max_le.mpr ⟨by decide, Nat.min_le_right _ _⟩⟩

def utcDay (nowUnix : Nat) : Nat := nowUnix / secondsPerUtcDay

/-- What is spent today. -/
def LedgerFile.loadForToday (file : LedgerFile) (nowUnix : Nat) : Except CapError Nat :=
  match file with
  | .absent => .ok 0
  | .unreadable kind => .error (.unavailable ("the ledger exists and cannot be read: " ++ kind))
  | .invalid e => .error (.unavailable ("the ledger is not valid state: " ++ e))
  | .state schemaId day spentBytes =>
      if schemaId ≠ ledgerSchemaId then
        .error (.unavailable
          ("the ledger names schema " ++ schemaId ++ ", expected " ++ ledgerSchemaId))
      else if day > utcDay nowUnix then .error (.unavailable "the ledger is dated in the future")
      else if day < utcDay nowUnix then .ok 0
      else match spentBytes with
        | .ok spent => .ok spent
        | .error e => .error (.unavailable ("spent_bytes is not a u64: " ++ e))

/-- What is left today. -/
def EgressLedger.remainingToday (l : EgressLedger) (nowUnix : Nat) : Except CapError Nat :=
  (l.file.loadForToday nowUnix).map (l.ceilingBytes - ·)

/-- What the file is after a write. -/
def written (total nowUnix : Nat) : LedgerFile := .state ledgerSchemaId (utcDay nowUnix) (.ok total)

/-- The file is written, or `saveError` tells why not. -/
def EgressLedger.persist (l : EgressLedger) (total nowUnix : Nat) (saveError : Option String) :
    EgressLedger × Except CapError Unit :=
  match saveError with
  | some e => (l, .error (.unavailable e))
  | none => ({ l with file := written total nowUnix }, .ok ())

/-- A debit, without the throttle's wait. -/
def EgressLedger.spend (l : EgressLedger) (bytes nowUnix : Nat) (saveError : Option String) :
    EgressLedger × Except CapError Unit :=
  match l.file.loadForToday nowUnix with
  | .error e => (l, .error e)
  | .ok spent =>
      let newTotal := min (spent + bytes) (2 ^ 64 - 1)
      if newTotal > l.ceilingBytes then
        match l.persist l.ceilingBytes nowUnix saveError with
        | (l, .error e) => (l, .error e)
        | (l, .ok ()) => (l, .error .dailyCeilingReached)
      else l.persist newTotal nowUnix saveError

/-- The refusal that a failed debit is. -/
def CapError.reason : CapError → DenyReason
  | .dailyCeilingReached => .dailyCeilingExceeded
  | .unavailable _ => .budgetUnavailable
  | .outsideSchedule => .scheduleClosed

section
variable {l : EgressLedger} {bytes nowUnix spent : Nat}

theorem min_gt_ceiling_iff : min (spent + bytes) (2 ^ 64 - 1) > l.ceilingBytes
    ↔ l.ceilingBytes < spent + bytes := by
  have hmax := l.band.2
  unfold maxDailyByteCap at hmax
  omega

/-- **A debit within the ceiling.** -/
theorem spend_within (hload : l.file.loadForToday nowUnix = .ok spent)
    (hle : spent + bytes ≤ l.ceilingBytes) :
    l.spend bytes nowUnix none = ({ l with file := written (spent + bytes) nowUnix }, .ok ()) := by
  have hmax := l.band.2
  unfold maxDailyByteCap at hmax
  have hmin : min (spent + bytes) (2 ^ 64 - 1) = spent + bytes := by omega
  unfold EgressLedger.spend
  rw [hload]
  dsimp only
  rw [hmin, if_neg (Nat.not_lt.mpr hle)]
  rfl

end

/-! ## The indicator -/

/-- What the indicator shows. -/
structure Indicator where
  live : Bool
  stampedAtUnix : Nat
  halted : Bool

def indicatorTtlSecs : Nat := 10

def Indicator.isFresh (i : Indicator) (nowUnix : Nat) : Bool :=
  if i.halted then false
  else if i.live = false then false
  else if i.stampedAtUnix = 0 ∨ i.stampedAtUnix > nowUnix then false
  else nowUnix - i.stampedAtUnix ≤ indicatorTtlSecs

end GoatCoin.Worker
