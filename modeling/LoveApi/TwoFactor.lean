import LoveApi.Go
import LoveApi.Program.Table
import LoveApi.Program.Transition

/-!
# Two-factor verification

A verification loads the user's `TwoFA` row, checks the code, and writes the whole row back with the failures counted or
reset.
-/

namespace LoveApi

open Program Go

def maxFailAttempts : Nat := 5

def lockoutDuration : Int := 300

def backupCodeLength : Nat := 8

structure TwoFA where
  secret : String := ""
  failedAttempts : Nat := 0
  lockedUntil : Option Time := none
  lastUsedAt : Option Time := none
deriving DecidableEq, Repr

namespace TwoFA

variable (t : TwoFA)

def isLocked (now : Time) : Bool :=
  match t.lockedUntil with
  | none => false
  | some lockedUntil => now < lockedUntil

def incrementFailedAttempts (now : Time) : TwoFA :=
  let t := { t with failedAttempts := t.failedAttempts + 1 }
  if t.failedAttempts ≥ maxFailAttempts then { t with lockedUntil := some (now + lockoutDuration * 10 ^ 9) } else t

def updateUsage (now : Time) : TwoFA :=
  { t with failedAttempts := 0, lockedUntil := none, lastUsedAt := some now }

end TwoFA

structure TwoFABackupCode where
  codeHash : String
  isUsed : Bool := false
  usedAt : Option Time := none
deriving DecidableEq, Repr

/-- What is computed by libraries: `strings.ToUpper`, `ValidateTOTPCode` with the secret, the code and the time, and
`ValidatePasswordAndHash`. -/
structure TwoFALibraries where
  toUpper : String → String := fun s => String.ofList (s.toList.map Char.toUpper)
  validateTOTPCode : String → String → Time → Bool := fun secret code _ => secret = code
  validatePasswordAndHash : String → String → Bool := fun password hash => password = hash

section BackupCodes

variable (lib : TwoFALibraries)

def cleanCode (code : String) : String := lib.toUpper (String.ofList (code.toList.filter (· ≠ '-')))

def validateBackupCode (code : String) : Bool :=
  let clean := cleanCode lib code
  clean.utf8ByteSize = backupCodeLength &&
    clean.toList.all fun c => ('A' ≤ c && c ≤ 'Z') || ('0' ≤ c && c ≤ '9')

/-- The code with a dash in the middle. It has the right format when this is called. -/
def normalizeBackupCode (code : String) : String :=
  let clean := (cleanCode lib code).toList
  if (cleanCode lib code).utf8ByteSize = backupCodeLength then
    String.ofList (clean.take 4) ++ "-" ++ String.ofList (clean.drop 4)
  else code

end BackupCodes

inductive VerificationKind
  | totp
  | backupCode
deriving DecidableEq, Repr

/-- What a verification does next, with its copy of the row. A verification that is done has found the code valid or
not, or has ended with an error. -/
inductive VerificationPc
  | start
  | loaded (t : TwoFA)
  | unlocked (t : TwoFA)
  | fetched (t : TwoFA) (backupCodes : List (Int × TwoFABackupCode))
  | marking (t : TwoFA) (id : Int) (backupCode : TwoFABackupCode)
  | failing (t : TwoFA)
  | saving (t : TwoFA) (valid : Bool)
  | done (result : Option Bool)
deriving DecidableEq, Repr

structure Verification where
  kind : VerificationKind
  code : String
  pc : VerificationPc := .start
deriving DecidableEq, Repr

/-- A code was evaluated and is wrong, or it was accepted; a backup code is accepted once its row is written. -/
inductive VerificationEvent
  | wrong (now : Time)
  | accepted (backupCode : Option Int)
deriving DecidableEq, Repr

structure TwoFADB where
  twoFA : TwoFA := {}
  backupCodes : Table Int TwoFABackupCode := .empty
  events : List VerificationEvent := []

def TwoFADB.log (db : TwoFADB) (event : VerificationEvent) : TwoFADB := { db with events := db.events ++ [event] }

section Steps

variable (lib : TwoFALibraries)

def verificationStep (now : Time) (v : Verification) (db : TwoFADB) : Option (Verification × TwoFADB) :=
  match v.pc with
  | .start => some ({ v with pc := .loaded db.twoFA }, db)
  | .loaded t => some ({ v with pc := if t.isLocked now then .done none else .unlocked t }, db)
  | .unlocked t =>
    match v.kind with
    | .totp =>
      if lib.validateTOTPCode t.secret v.code now then
        some ({ v with pc := .saving (t.updateUsage now) true }, db.log (.accepted none))
      else some ({ v with pc := .failing t }, db.log (.wrong now))
    | .backupCode =>
      if !validateBackupCode lib v.code then some ({ v with pc := .done none }, db)
      else some ({ v with pc := .fetched t (db.backupCodes.rows.filter fun bc => !bc.2.isUsed) }, db)
  | .fetched t backupCodes =>
    match backupCodes.find? fun bc => lib.validatePasswordAndHash (normalizeBackupCode lib v.code) bc.2.codeHash with
    | some bc => some ({ v with pc := .marking t bc.1 { bc.2 with isUsed := true, usedAt := some now } }, db)
    | none => some ({ v with pc := .failing t }, db.log (.wrong now))
  | .marking t id backupCode =>
    some ({ v with pc := .saving (t.updateUsage now) true },
      { db with backupCodes := db.backupCodes.update id fun _ => backupCode }.log (.accepted (some id)))
  | .failing t => some ({ v with pc := .saving (t.incrementFailedAttempts now) false }, db)
  | .saving t valid => some ({ v with pc := .done (some valid) }, { db with twoFA := t })
  | .done _ => none

def twoFASystem : System (Nat × Time) (TwoFADB × List Verification) := components (verificationStep lib)

end Steps

end LoveApi
