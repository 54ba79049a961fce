/-
# `GoatCoin.Worker.LedgerRuns` — the day's ceiling over restarts, crashes and replaced files

The total of a day is in one file, rewritten by three calls of the file system; each of them may
fail, and the process may die at each:

    create the directory    nothing has changed
    write the copy          the copy is torn
    rename it               the file is the old one or the new one

The file forgets every day but its own.  What is asked is about all the debits that were ever made:
those of one day sum to the ceiling at most, a day that was closed stays closed, and a file that
cannot be trusted is refused and kept.  A file of an earlier day is not looked into, so one whose
total is no number is taken for a fresh day.
-/
import GoatCoin.Lib.Runs
import GoatCoin.Worker.Ledger
import Mathlib.Tactic

namespace GoatCoin.Worker

/-! ## The file system -/

structure Disk where
  file : LedgerFile
  tmp : LedgerFile
deriving DecidableEq

/-- How a call of the file system ends. -/
inductive FsCall where
  | done
  | fails (kind : String)
  | dies

/-- What happens to a debit on its way; `torn` is what an interrupted write leaves. -/
structure Weather where
  read : FsCall
  createDir : FsCall
  write : FsCall
  torn : LedgerFile
  rename : FsCall
  diesAfter : Bool

/-- `none` is a debit that did not return. -/
abbrev Returned : Type := Option (Except CapError Unit)

def Disk.persist (d : Disk) (total nowUnix : Nat) (w : Weather) : Disk × Returned :=
  match w.createDir with
  | .dies => (d, none)
  | .fails kind => (d, some (.error (.unavailable ("cannot create the state dir: " ++ kind))))
  | .done =>
      match w.write with
      | .dies => ({ d with tmp := w.torn }, none)
      | .fails kind =>
          ({ d with tmp := w.torn },
            some (.error (.unavailable ("cannot write the ledger: " ++ kind))))
      | .done =>
          match w.rename with
          | .dies => ({ d with tmp := written total nowUnix }, none)
          | .fails kind =>
              ({ d with tmp := written total nowUnix },
                some (.error (.unavailable ("cannot commit the ledger: " ++ kind))))
          | .done =>
              ({ file := written total nowUnix, tmp := .absent },
                if w.diesAfter then none else some (.ok ()))

/-- `EgressLedger::load_for_today`, where the reading itself may fail. -/
def Disk.loadForToday (d : Disk) (nowUnix : Nat) (w : Weather) : Option (Except CapError Nat) :=
  match w.read with
  | .dies => none
  | .fails kind => some (.error (.unavailable ("the ledger exists and cannot be read: " ++ kind)))
  | .done => some (d.file.loadForToday nowUnix)

/-- `EgressLedger::spend` of any ledger with this ceiling. -/
def Disk.spend (d : Disk) (ceilingBytes bytes nowUnix : Nat) (w : Weather) : Disk × Returned :=
  match d.loadForToday nowUnix w with
  | none => (d, none)
  | some (.error e) => (d, some (.error e))
  | some (.ok spent) =>
      if min (spent + bytes) (2 ^ 64 - 1) > ceilingBytes then
        match d.persist ceilingBytes nowUnix w with
        | (d, some (.ok ())) => (d, some (.error .dailyCeilingReached))
        | (d, other) => (d, other)
      else d.persist (min (spent + bytes) (2 ^ 64 - 1)) nowUnix w

/-- What stopped the write of a debit that returned. -/
def Weather.saveError (w : Weather) : Option String :=
  match w.createDir, w.write, w.rename with
  | .fails kind, _, _ => some ("cannot create the state dir: " ++ kind)
  | _, .fails kind, _ => some ("cannot write the ledger: " ++ kind)
  | _, _, .fails kind => some ("cannot commit the ledger: " ++ kind)
  | _, _, _ => none

/-- The process lives through the debit, and the file can be read. -/
def Weather.Fair (w : Weather) : Prop :=
  w.read = .done ∧ w.createDir ≠ .dies ∧ w.write ≠ .dies ∧ w.rename ≠ .dies ∧ w.diesAfter = false

theorem persist_fair (d : Disk) (l : EgressLedger) (total nowUnix : Nat) {w : Weather}
    (hfair : w.Fair) (hfile : l.file = d.file) :
    (d.persist total nowUnix w).1.file = (l.persist total nowUnix w.saveError).1.file
      ∧ (d.persist total nowUnix w).2 = some (l.persist total nowUnix w.saveError).2 := by
  obtain ⟨-, hdir, hwrite, hrename, hafter⟩ := hfair
  unfold Disk.persist EgressLedger.persist Weather.saveError
  cases hcreate : w.createDir with
  | dies => exact absurd hcreate hdir
  | fails kind => exact ⟨hfile.symm, rfl⟩
  | done =>
      cases htmp : w.write with
      | dies => exact absurd htmp hwrite
      | fails kind => exact ⟨hfile.symm, rfl⟩
      | done =>
          cases hmove : w.rename with
          | dies => exact absurd hmove hrename
          | fails kind => exact ⟨hfile.symm, rfl⟩
          | done =>
              rw [hafter]
              exact ⟨rfl, rfl⟩

/-- **The debit in its steps is the debit at once**, while the process lives. -/
theorem spend_fair (d : Disk) (l : EgressLedger) (bytes nowUnix : Nat) {w : Weather}
    (hfair : w.Fair) (hfile : l.file = d.file) :
    (d.spend l.ceilingBytes bytes nowUnix w).1.file = (l.spend bytes nowUnix w.saveError).1.file
      ∧ (d.spend l.ceilingBytes bytes nowUnix w).2
        = some (l.spend bytes nowUnix w.saveError).2 := by
  have hpersist := fun total => persist_fair d l total nowUnix hfair hfile
  unfold Disk.spend Disk.loadForToday EgressLedger.spend
  rw [hfair.1, hfile]
  dsimp only
  cases hload : d.file.loadForToday nowUnix with
  | error e => exact ⟨hfile.symm, rfl⟩
  | ok spent =>
      dsimp only
      split
      · obtain ⟨hsame, hret⟩ := hpersist l.ceilingBytes
        rcases hd : d.persist l.ceilingBytes nowUnix w with ⟨d', ret⟩
        rcases hl : l.persist l.ceilingBytes nowUnix w.saveError with ⟨l', ret'⟩
        rw [hd, hl] at hsame hret
        dsimp only at hsame hret
        subst hret
        cases ret' with
        | error e => exact ⟨hsame, rfl⟩
        | ok u => exact ⟨hsame, rfl⟩
      · exact hpersist _

theorem persist_cases {d d' : Disk} {total nowUnix : Nat} {w : Weather} {ret : Returned}
    (h : d.persist total nowUnix w = (d', ret)) :
    (d'.file = d.file ∧ (ret = none ∨ ∃ detail, ret = some (.error (.unavailable detail)))) ∨
      (d'.file = written total nowUnix ∧ (ret = none ∨ ret = some (.ok ()))) := by
  unfold Disk.persist at h
  cases hcreate : w.createDir with
  | dies =>
      rw [hcreate] at h
      cases h
      exact .inl ⟨rfl, .inl rfl⟩
  | fails kind =>
      rw [hcreate] at h
      cases h
      exact .inl ⟨rfl, .inr ⟨_, rfl⟩⟩
  | done =>
      cases hwrite : w.write with
      | dies =>
          rw [hcreate, hwrite] at h
          cases h
          exact .inl ⟨rfl, .inl rfl⟩
      | fails kind =>
          rw [hcreate, hwrite] at h
          cases h
          exact .inl ⟨rfl, .inr ⟨_, rfl⟩⟩
      | done =>
          cases hrename : w.rename with
          | dies =>
              rw [hcreate, hwrite, hrename] at h
              cases h
              exact .inl ⟨rfl, .inl rfl⟩
          | fails kind =>
              rw [hcreate, hwrite, hrename] at h
              cases h
              exact .inl ⟨rfl, .inr ⟨_, rfl⟩⟩
          | done =>
              rw [hcreate, hwrite, hrename] at h
              cases hafter : w.diesAfter with
              | false =>
                  rw [hafter] at h
                  cases h
                  exact .inr ⟨rfl, .inr rfl⟩
              | true =>
                  rw [hafter] at h
                  cases h
                  exact .inr ⟨rfl, .inl rfl⟩

/-! ## Runs -/

/-- A call of `spend`, with the file before and after it. -/
structure Debit where
  before : LedgerFile
  day : Nat
  bytes : Nat
  returned : Returned
  after : LedgerFile

def Debit.Succeeded (e : Debit) : Prop := e.returned = some (.ok ())

def Debit.Reached (e : Debit) : Prop := e.returned = some (.error .dailyCeilingReached)

instance (e : Debit) : Decidable e.Succeeded :=
  match h : e.returned with
  | some (.ok ()) => isTrue h
  | some (.error _) => isFalse fun h' => by rw [Debit.Succeeded, h] at h'; cases h'
  | none => isFalse fun h' => by rw [Debit.Succeeded, h] at h'; cases h'

/-- A text that is no ledger: not JSON of the shape, of another schema, or with a total that is no
number. -/
def LedgerFile.NotLedger : LedgerFile → Prop
  | .absent => False
  | .unreadable _ => True
  | .invalid _ => True
  | .state schemaId _ (.ok _) => schemaId ≠ ledgerSchemaId
  | .state _ _ (.error _) => True

inductive LedgerEvent where
  | spend (bytes nowUnix : Nat) (w : Weather)
  | replace (text : LedgerFile) (garbled : text.NotLedger)

/-- The disk, and every debit that was made on it. -/
structure DayBook where
  disk : Disk
  debits : List Debit

def DayBook.step (ceilingBytes : Nat) (b : DayBook) : LedgerEvent → DayBook
  | .spend bytes nowUnix w =>
      let (disk, returned) := b.disk.spend ceilingBytes bytes nowUnix w
      { disk := disk
        debits := b.debits ++ [⟨b.disk.file, utcDay nowUnix, bytes, returned, disk.file⟩] }
  | .replace text _ => { b with disk := { b.disk with file := text } }

/-- The bytes of the successful debits of a day. -/
def spentOn (day : Nat) (debits : List Debit) : Nat :=
  ((debits.filter fun e => e.day = day ∧ e.Succeeded).map Debit.bytes).sum

/-- Unreadable, of another schema, unparsable or dated in the future. -/
def LedgerFile.Untrusted (file : LedgerFile) (day : Nat) : Prop :=
  match file with
  | .absent => False
  | .unreadable _ => True
  | .invalid _ => True
  | .state schemaId fileDay (.ok _) => schemaId ≠ ledgerSchemaId ∨ day < fileDay
  | .state _ _ (.error _) => True

/-- What the ceiling promises of the debits of a run. -/
structure DailyLaw (ceilingBytes : Nat) (debits : List Debit) : Prop where
  within : ∀ day, spentOn day debits ≤ ceilingBytes
  closed : debits.Pairwise fun earlier later =>
    earlier.Reached → later.day = earlier.day → later.bytes ≠ 0 → ¬later.Succeeded
  refused : ∀ e ∈ debits, e.before.Untrusted e.day → ¬e.Succeeded ∧ e.after = e.before

/-- A file of the schema and of an earlier day whose total is no number. -/
def LedgerFile.StaleGarbled (file : LedgerFile) (day : Nat) : Prop :=
  ∃ fileDay e, file = .state ledgerSchemaId fileDay (.error e) ∧ fileDay < day

/-- The debit does not read such a file. -/
def ReadsSound (b : DayBook) : LedgerEvent → Prop
  | .spend _ nowUnix _ => ¬b.disk.file.StaleGarbled (utcDay nowUnix)
  | .replace _ _ => True

/-! ## One debit -/

theorem spentOn_snoc (day : Nat) (debits : List Debit) (e : Debit) :
    spentOn day (debits ++ [e]) = spentOn day debits + if e.day = day
    ∧ e.Succeeded then e.bytes else 0 := by
  unfold spentOn
  rw [List.filter_append, List.map_append, List.sum_append]
  by_cases h : e.day = day ∧ e.Succeeded
  · rw [if_pos h, List.filter_cons_of_pos (by simpa using h)]
    rfl
  · rw [if_neg h, List.filter_cons_of_neg (by simpa using h)]
    rfl

/-- A debit that left its mark on the file. -/
def Debit.Marked (e : Debit) : Prop := e.Succeeded ∨ e.Reached

/-- What the file still knows of the debits. -/
def Knows (ceilingBytes : Nat) (file : LedgerFile) (debits : List Debit) : Prop :=
  match file with
  | .absent => ∀ e ∈ debits, ¬e.Marked
  | .state schemaId fileDay (.ok total) =>
      schemaId = ledgerSchemaId →
        (∀ e ∈ debits, e.Marked → e.day ≤ fileDay) ∧ spentOn fileDay debits ≤ total
          ∧ (∀ e ∈ debits, e.Reached → e.day = fileDay → ceilingBytes ≤ total)
  | _ => True

variable {nowUnix ceilingBytes : Nat} {debits : List Debit} {file : LedgerFile}

theorem spentOn_eq_zero {day : Nat} (h : ∀ e ∈ debits, e.Marked → e.day ≠ day) :
    spentOn day debits = 0 := by
  have hnil : debits.filter (fun e => e.day = day ∧ e.Succeeded) = [] := by
    rw [List.filter_eq_nil_iff]
    intro e he hcounted
    obtain ⟨hday, hok⟩ := of_decide_eq_true hcounted
    exact h e he (.inl hok) hday
  unfold spentOn
  rw [hnil]
  rfl

/-- **A total that is read covers the debits of the day.** -/
theorem covered_of_load {spent : Nat}
    (hknows : Knows ceilingBytes file debits) (hsound : ¬file.StaleGarbled (utcDay nowUnix))
    (hload : file.loadForToday nowUnix = .ok spent) :
    (∀ e ∈ debits, e.Marked → e.day ≤ utcDay nowUnix) ∧ spentOn (utcDay nowUnix) debits ≤ spent
      ∧ (∀ e ∈ debits, e.Reached → e.day = utcDay nowUnix → ceilingBytes ≤ spent) := by
  cases file with
  | absent =>
      refine ⟨fun e he hm => absurd hm (hknows e he), ?_,
        fun e he hr => absurd (.inr hr) (hknows e he)⟩
      rw [spentOn_eq_zero fun e he hm => absurd hm (hknows e he)]
      exact Nat.zero_le _
  | unreadable kind => cases hload
  | invalid e => cases hload
  | state schemaId fileDay total =>
      unfold LedgerFile.loadForToday at hload
      dsimp only at hload
      split at hload
      · cases hload
      · rename_i hschema
        have hschema : schemaId = ledgerSchemaId := Decidable.of_not_not hschema
        split at hload
        · cases hload
        · rename_i hfuture
          cases total with
          | error e =>
              split at hload
              · rename_i hstale
                exact absurd ⟨fileDay, e, by rw [hschema], hstale⟩ hsound
              · cases hload
          | ok total =>
              obtain ⟨hdays, hsum, hclosed⟩ := hknows hschema
              split at hload
              · -- a fresh day: every mark is of the file's day or before it
                rename_i hstale
                cases hload
                have hother : ∀ e ∈ debits, e.Marked → e.day ≠ utcDay nowUnix := by
                  intro e he hm heq
                  exact absurd (hdays e he hm) (by omega)
                refine ⟨fun e he hm => (hdays e he hm).trans hstale.le, ?_, ?_⟩
                · rw [spentOn_eq_zero hother]
                · intro e he hr hday
                  exact absurd hday (hother e he (.inr hr))
              · rename_i hnotstale
                cases hload
                have hday : fileDay = utcDay nowUnix := by omega
                subst hday
                exact ⟨hdays, hsum, hclosed⟩

theorem load_ne_reached :
    file.loadForToday nowUnix ≠ .error .dailyCeilingReached := by
  cases file with
  | absent => nofun
  | unreadable kind => nofun
  | invalid e => nofun
  | state schemaId fileDay total =>
      unfold LedgerFile.loadForToday
      dsimp only
      split
      · nofun
      · split
        · nofun
        · split
          · nofun
          · cases total with
            | ok total => nofun
            | error e => nofun

theorem load_untrusted (huntrusted : file.Untrusted (utcDay nowUnix))
    (hsound : ¬file.StaleGarbled (utcDay nowUnix)) : ∃ e, file.loadForToday nowUnix = .error e := by
  cases file with
  | absent => exact absurd huntrusted not_false
  | unreadable kind => exact ⟨_, rfl⟩
  | invalid e => exact ⟨_, rfl⟩
  | state schemaId fileDay total =>
      unfold LedgerFile.loadForToday
      dsimp only
      split
      · exact ⟨_, rfl⟩
      · rename_i hschema
        have hschema : schemaId = ledgerSchemaId := Decidable.of_not_not hschema
        split
        · exact ⟨_, rfl⟩
        · rename_i hfuture
          cases total with
          | ok total =>
              rcases huntrusted with hother | hlater
              · exact absurd hschema hother
              · exact absurd hlater hfuture
          | error e =>
              split
              · rename_i hstale
                exact absurd ⟨fileDay, e, by rw [hschema], hstale⟩ hsound
              · exact ⟨_, rfl⟩

/-- **What a debit can do**: leave the file alone, write what it read and its bytes, or close the
day. -/
theorem spend_cases {bytes : Nat} (hmax : ceilingBytes ≤ maxDailyByteCap) {d d' : Disk}
    {w : Weather} {ret : Returned} (h : d.spend ceilingBytes bytes nowUnix w = (d', ret)) :
    (d'.file = d.file ∧ ret ≠ some (.ok ()) ∧ ret ≠ some (.error .dailyCeilingReached)) ∨
      ∃ spent, d.file.loadForToday nowUnix = .ok spent ∧
        ((spent + bytes ≤ ceilingBytes ∧ d'.file = written (spent + bytes) nowUnix
            ∧ ret ≠ some (.error .dailyCeilingReached)) ∨
          (ceilingBytes < spent + bytes ∧ d'.file = written ceilingBytes nowUnix
            ∧ ret ≠ some (.ok ()))) := by
  unfold maxDailyByteCap at hmax
  unfold Disk.spend at h
  cases hread : w.read with
  | dies =>
      rw [Disk.loadForToday, hread] at h
      cases h
      exact .inl ⟨rfl, nofun, nofun⟩
  | fails kind =>
      rw [Disk.loadForToday, hread] at h
      cases h
      exact .inl ⟨rfl, nofun, nofun⟩
  | done =>
      rw [Disk.loadForToday, hread] at h
      dsimp only at h
      cases hload : d.file.loadForToday nowUnix with
      | error e =>
          rw [hload] at h
          cases h
          refine .inl ⟨rfl, nofun, ?_⟩
          intro he
          cases he
          exact load_ne_reached hload
      | ok spent =>
          rw [hload] at h
          dsimp only at h
          split at h
          · rename_i hpast
            have hpast : ceilingBytes < spent + bytes := by omega
            rcases hp : d.persist ceilingBytes nowUnix w with ⟨d₁, ret₁⟩
            rw [hp] at h
            rcases persist_cases hp with ⟨hsame, hnone | ⟨detail, herr⟩⟩ | ⟨hnew, hnone | hok⟩
            · subst hnone
              cases h
              exact .inl ⟨hsame, nofun, nofun⟩
            · subst herr
              cases h
              exact .inl ⟨hsame, nofun, nofun⟩
            · subst hnone
              cases h
              exact .inr ⟨spent, rfl, .inr ⟨hpast, hnew, nofun⟩⟩
            · subst hok
              cases h
              exact .inr ⟨spent, rfl, .inr ⟨hpast, hnew, nofun⟩⟩
          · rename_i hwithin
            have hmin : min (spent + bytes) (2 ^ 64 - 1) = spent + bytes := by omega
            rw [hmin] at h hwithin
            rcases persist_cases h with ⟨hsame, hnone | ⟨detail, herr⟩⟩ | ⟨hnew, hnone | hok⟩
            · subst hnone
              exact .inl ⟨hsame, nofun, nofun⟩
            · subst herr
              exact .inl ⟨hsame, nofun, nofun⟩
            · subst hnone
              exact .inr ⟨spent, rfl, .inl ⟨Nat.not_lt.mp hwithin, hnew, nofun⟩⟩
            · subst hok
              exact .inr ⟨spent, rfl, .inl ⟨Nat.not_lt.mp hwithin, hnew, nofun⟩⟩

/-! ## Whole runs -/

/-- The file knows the debits that the law is about. -/
structure Booked (ceilingBytes : Nat) (b : DayBook) : Prop where
  law : DailyLaw ceilingBytes b.debits
  knows : Knows ceilingBytes b.disk.file b.debits

theorem knows_replaced {text : LedgerFile} (h : text.NotLedger) (debits : List Debit) :
    Knows ceilingBytes text debits := by
  cases text with
  | absent => exact absurd h not_false
  | unreadable kind => trivial
  | invalid e => trivial
  | state schemaId fileDay total =>
      cases total with
      | ok total => exact fun hschema => absurd hschema h
      | error e => trivial

theorem forall_snoc {e : Debit} {P : Debit → Prop} (h : ∀ x ∈ debits, P x) (he : P e) :
    ∀ x ∈ debits ++ [e], P x := by
  intro x hx
  rcases List.mem_append.mp hx with hold | hnew
  · exact h x hold
  · rw [List.mem_singleton.mp hnew]
    exact he

/-- A debit without a mark changes nothing that the file knows. -/
theorem knows_snoc {e : Debit}
    (h : Knows ceilingBytes file debits) (hunmarked : ¬e.Marked) :
    Knows ceilingBytes file (debits ++ [e]) := by
  cases file with
  | absent => exact forall_snoc h hunmarked
  | unreadable kind => trivial
  | invalid e => trivial
  | state schemaId fileDay total =>
      cases total with
      | error e => trivial
      | ok total =>
          intro hschema
          obtain ⟨hdays, hsum, hclosed⟩ := h hschema
          refine ⟨forall_snoc hdays fun hm => absurd hm hunmarked, ?_,
            forall_snoc hclosed fun hr => absurd (.inr hr) hunmarked⟩
          rw [spentOn_snoc, if_neg fun hc => hunmarked (.inl hc.2)]
          exact hsum

/-- **One more debit keeps the law**, and the file knows it. -/
theorem booked_spend {bytes : Nat} (hmax : ceilingBytes ≤ maxDailyByteCap) {b : DayBook}
    {w : Weather} (hb : Booked ceilingBytes b)
    (hsound : ¬b.disk.file.StaleGarbled (utcDay nowUnix)) :
    Booked ceilingBytes (b.step ceilingBytes (.spend bytes nowUnix w)) := by
  obtain ⟨⟨hwithin, hclosed, hrefused⟩, hknows⟩ := hb
  rcases hspend : b.disk.spend ceilingBytes bytes nowUnix w with ⟨d', ret⟩
  have hcases := spend_cases hmax hspend
  have hcovered := fun (spent : Nat) (hload : b.disk.file.loadForToday nowUnix = .ok spent) =>
    covered_of_load hknows hsound hload
  -- a debit that succeeded had room
  have hroom : ret = some (.ok ()) →
      ∃ spent, b.disk.file.loadForToday nowUnix = .ok spent ∧ spent + bytes ≤ ceilingBytes := by
    intro hok
    rcases hcases with ⟨-, hnot, -⟩ | ⟨spent, hload, ⟨hle, -, -⟩ | ⟨-, -, hnot⟩⟩
    · exact absurd hok hnot
    · exact ⟨spent, hload, hle⟩
    · exact absurd hok hnot
  unfold DayBook.step
  dsimp only
  rw [hspend]
  refine ⟨⟨?_, ?_, ?_⟩, ?_⟩
  · intro day
    rw [spentOn_snoc]
    split
    · rename_i hcounted
      obtain ⟨rfl, hok⟩ := hcounted
      obtain ⟨spent, hload, hle⟩ := hroom hok
      have hsum := (hcovered spent hload).2.1
      dsimp only at hsum ⊢
      omega
    · exact hwithin day
  · refine List.pairwise_append.mpr ⟨hclosed, List.pairwise_singleton _ _, ?_⟩
    intro earlier he later hlater hreached hday hbytes hok
    rw [List.mem_singleton.mp hlater] at hday hbytes hok
    obtain ⟨spent, hload, hle⟩ := hroom hok
    have hfull := (hcovered spent hload).2.2 earlier he hreached hday.symm
    dsimp only at hbytes
    omega
  · refine forall_snoc hrefused ?_
    intro huntrusted
    obtain ⟨e, herr⟩ := load_untrusted huntrusted hsound
    rcases hcases with ⟨hsame, hnot, -⟩ | ⟨spent, hload, -⟩
    · exact ⟨hnot, hsame⟩
    · rw [herr] at hload
      cases hload
  · rcases hcases with ⟨hsame, hnok, hnreached⟩ | ⟨spent, hload, hwrote⟩
    · rw [hsame]
      exact knows_snoc hknows fun hm => hm.elim hnok hnreached
    · obtain ⟨hdays, hsum, hfull⟩ := hcovered spent hload
      rcases hwrote with ⟨hle, hnew, hnreached⟩ | ⟨hlt, hnew, hnok⟩
      · rw [hnew]
        intro _
        refine ⟨forall_snoc hdays fun _ => Nat.le_refl _, ?_, ?_⟩
        · rw [spentOn_snoc]
          split
          · dsimp only
            omega
          · omega
        · refine forall_snoc ?_ fun hr => absurd hr hnreached
          intro e he hr hday
          exact (hfull e he hr hday).trans (Nat.le_add_right _ _)
      · rw [hnew]
        intro _
        refine ⟨forall_snoc hdays fun _ => Nat.le_refl _, ?_, fun _ _ _ _ => Nat.le_refl _⟩
        rw [spentOn_snoc, if_neg fun hc => hnok hc.2]
        exact hwithin _

theorem booked_step (hmax : ceilingBytes ≤ maxDailyByteCap) (b : DayBook) (k : LedgerEvent)
    (hb : Booked ceilingBytes b) (hk : ReadsSound b k) :
    Booked ceilingBytes (b.step ceilingBytes k) := by
  cases k with
  | spend bytes nowUnix w => exact booked_spend hmax hb hk
  | replace text garbled => exact ⟨hb.law, knows_replaced garbled _⟩

/-- A day book that starts on a disk. -/
def DayBook.opened (disk : Disk) : DayBook := ⟨disk, []⟩

theorem booked_opened (ceilingBytes : Nat) (disk : Disk) : Booked ceilingBytes (.opened disk) := by
  refine ⟨⟨fun day => Nat.zero_le _, List.Pairwise.nil,
    fun e he => absurd he (List.not_mem_nil)⟩, ?_⟩
  unfold DayBook.opened Knows
  dsimp only
  split
  · exact fun e he => absurd he (List.not_mem_nil)
  · intro _
    exact ⟨fun e he => absurd he (List.not_mem_nil), Nat.zero_le _,
      fun e he => absurd he (List.not_mem_nil)⟩
  · trivial

/-- **The day's ceiling over every run**: where no debit reads a garbled file of an earlier day. -/
theorem daily_ceiling_kept (l : EgressLedger) (disk : Disk) (events : List LedgerEvent)
    (hsound : Runs.Guarded (DayBook.step l.ceilingBytes) ReadsSound (.opened disk) events) :
    Runs.Throughout (DayBook.step l.ceilingBytes) (fun b => DailyLaw l.ceilingBytes b.debits)
      (.opened disk)
      events := by
  have hbooked :=
    Runs.throughout_of_guarded (booked_step l.band.2) (booked_opened l.ceilingBytes disk) hsound
  intro before hbefore
  exact (hbooked before hbefore).law

/-- Every call of the file system ends well. -/
def Weather.fair : Weather := ⟨.done, .done, .done, .absent, .done, false⟩

/-- A crash in the middle of the write, a file that is replaced, and a clock that goes back. -/
theorem daily_ceiling_kept_sample :
    Runs.Throughout (DayBook.step minDailyByteCap) (fun b => DailyLaw minDailyByteCap b.debits)
      (.opened ⟨.absent, .absent⟩)
      [.spend 600000000 172800 .fair, .spend 500000000 86400 .fair,
        .spend 300000000 172801 { Weather.fair with
                                  write := .dies, torn := .invalid "EOF while parsing" },
        .spend 600000000 172802 .fair, .replace (.invalid "expected value") trivial,
          .spend 1 259200 .fair] := by
  refine daily_ceiling_kept (.new .absent minDailyByteCap) ⟨.absent, .absent⟩ _ ?_
  refine Runs.guarded_cons ?_ (Runs.guarded_cons ?_ (Runs.guarded_cons ?_ (Runs.guarded_cons ?_
    (Runs.guarded_cons trivial (Runs.guarded_cons ?_ Runs.guarded_nil)))))
  · rintro ⟨day, e, hfile, -⟩
    cases hfile
  · rintro ⟨day, e, hfile, -⟩
    cases hfile
  · rintro ⟨day, e, hfile, -⟩
    cases hfile
  · rintro ⟨day, e, hfile, -⟩
    cases hfile
  · rintro ⟨day, e, hfile, -⟩
    cases hfile

/-- **A garbled file of an earlier day gives the day's ceiling a second time.** -/
theorem ceiling_spent_twice :
    ¬ ∀ (l : EgressLedger) (disk : Disk) (events : List LedgerEvent),
      Runs.Throughout (DayBook.step l.ceilingBytes) (fun b => DailyLaw l.ceilingBytes b.debits)
        (.opened disk)
        events := by
  intro h
  have hlaw := h (.new .absent minDailyByteCap) ⟨.absent, .absent⟩
    [.spend 1000000000 86400 .fair,
      .replace (.state ledgerSchemaId 0 (.error "invalid digit found in string")) trivial,
      .spend 1000000000 86401 .fair] _ (List.prefix_refl _)
  have hsum := hlaw.within 1
  revert hsum
  decide

end GoatCoin.Worker
