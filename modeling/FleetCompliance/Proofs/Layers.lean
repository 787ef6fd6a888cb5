import FleetCompliance.Batch.Config
import FleetCompliance.Proofs.Digits
import FleetCompliance.Proofs.Tallies
import Mathlib.Data.List.TakeWhile

/-!
# Settings in layers

A setting comes from the environment, else from a file, else from a default.
Not all checks are made at the same place: the text in a variable is read
before the layers are put together, and bounds are kept after that. So a
variable that cannot be used is a fault even if the file has a number that can,
while a number in the file that cannot be used is none if the variable is set.

What the five numbers have in common is said once, of a `Slot`. Which number is
in effect is told by the layers alone (`Slot.InEffect`). It is the one that is
computed (`Slot.value?_eq_ok_iff`), and there is one exactly if the variable can
be used (`Slot.exists_inEffect_iff`). All settings together are read one after
the other with checks in between (`Config.resolve_eq`), so that a configuration
is taken apart step by step (`Config.resolve_eq_ok_iff`).

What a text says does not depend on how it is read: a number stands there in
digits, perhaps with a sign, and amid blanks (`Text.SaysNat`, `Text.SaysInt`). A
zone is named in the same way (`TimeZone.NamedBy`). Which names are known is a
matter of the directory in which zones are looked up, and nothing is supposed of
it: a name may have blanks within, and may be known or not.
-/

namespace FleetCompliance

/-! ## Blanks around a text -/

namespace Text

/-- **A text that has something amid blanks**, and nothing else. -/
def Amid (core : List Char) (text : String) : Prop :=
  ∃ before after, text.toList = before ++ core ++ after
    ∧ (∀ c ∈ before, isBlank c = true) ∧ ∀ c ∈ after, isBlank c = true

/-- The characters of a trimmed text. -/
theorem toList_trim (text : String) :
    (trim text).toList = (trimStart (trimStart text.toList).reverse).reverse :=
  String.toList_ofList

/-- Blanks are cut off in front of what begins with none. -/
theorem trimStart_append {before rest : List Char} (hbefore : ∀ c ∈ before, isBlank c = true)
    (hrest : ∀ c ∈ rest.head?, isBlank c = false) : trimStart (before ++ rest) = rest := by
  rw [trimStart, List.dropWhile_append_of_pos hbefore]
  cases rest with
  | nil => rfl
  | cons c cs =>
    refine List.dropWhile_cons_of_neg ?_
    rw [hrest c rfl]
    exact Bool.false_ne_true

/-- Trimming takes blanks away and nothing else. -/
theorem amid_trim (text : String) : Amid (trim text).toList text := by
  have hcut (cs : List Char) : cs.takeWhile isBlank ++ trimStart cs = cs :=
    List.takeWhile_append_dropWhile
  have hback : (trimStart (trimStart text.toList).reverse).reverse
      ++ ((trimStart text.toList).reverse.takeWhile isBlank).reverse = trimStart text.toList := by
    rw [← List.reverse_append, hcut, List.reverse_reverse]
  refine ⟨text.toList.takeWhile isBlank,
    ((trimStart text.toList).reverse.takeWhile isBlank).reverse, ?_,
    fun c hc => List.mem_takeWhile_imp hc,
    fun c hc => List.mem_takeWhile_imp (List.mem_reverse.mp hc)⟩
  rw [toList_trim, List.append_assoc, hback, hcut]

/-- **A text without blanks around it.** There may be some within. -/
def Bare (core : List Char) : Prop :=
  (∀ c ∈ core.head?, isBlank c = false) ∧ ∀ c ∈ core.getLast?, isBlank c = false

/-- What has no blanks has none around it. -/
theorem bare_of_forall {core : List Char} (h : ∀ c ∈ core, isBlank c = false) : Bare core :=
  ⟨fun c hc => h c (List.mem_of_mem_head? hc), fun c hc => h c (List.mem_of_mem_getLast? hc)⟩

/-- What is left when blanks are cut off in front begins with none. -/
theorem head?_trimStart (cs : List Char) : ∀ c ∈ (trimStart cs).head?, isBlank c = false := by
  intro c hc
  have hfirst := List.head?_dropWhile_not isBlank cs
  rw [show cs.dropWhile isBlank = trimStart cs from rfl, Option.mem_def.mp hc] at hfirst
  exact hfirst

/-- A trimmed text has no blanks around it. -/
theorem bare_trim (text : String) : Bare (trim text).toList := by
  rw [toList_trim]
  constructor
  · intro c hc
    rw [List.head?_reverse] at hc
    -- the last character that is left is the first one, and nothing is cut off before it
    obtain ⟨front, hfront⟩ := List.dropWhile_suffix (l := (trimStart text.toList).reverse) isBlank
    refine head?_trimStart text.toList c ?_
    rw [← List.getLast?_reverse, ← hfront, List.getLast?_append]
    exact Option.mem_def.mpr (by rw [show List.dropWhile isBlank _ = trimStart _ from rfl,
      Option.mem_def.mp hc, Option.some_or])
  · intro c hc
    rw [List.getLast?_reverse] at hc
    exact head?_trimStart _ c hc

/-- **What has no blanks around it is left when those around it are
trimmed.** -/
theorem Amid.toList_trim {core : List Char} {text : String} (h : Amid core text)
    (hcore : Bare core) : (trim text).toList = core := by
  obtain ⟨before, after, htext, hbefore, hafter⟩ := h
  rw [Text.toList_trim, htext]
  cases core with
  | nil =>
    -- the blanks on both sides are one run, all of which is cut off at the front
    have hblank : ∀ c ∈ before ++ [] ++ after, isBlank c = true := by
      simpa [or_imp, forall_and] using ⟨hbefore, hafter⟩
    have hnone : trimStart (before ++ [] ++ after) = [] := List.dropWhile_eq_nil_iff.mpr hblank
    rw [hnone]
    rfl
  | cons c cs =>
    have hfirst : isBlank c = false := hcore.1 c rfl
    rw [List.append_assoc, trimStart_append hbefore (by simpa using hfirst), List.reverse_append,
      trimStart_append (fun c hc => hafter c (List.mem_reverse.mp hc)), List.reverse_reverse]
    intro d hd
    rw [List.head?_reverse] at hd
    exact hcore.2 d hd

/-- A digit is no blank. -/
theorem isBlank_of_isDigit {c : Char} (h : c.isDigit = true) : isBlank c = false := by
  obtain ⟨hlower, hupper⟩ := isDigit_iff.mp h
  have hlower : 48 ≤ c.toNat := hlower
  have hupper : c.toNat ≤ 57 := hupper
  simp only [isBlank, Bool.or_eq_false_iff, Bool.and_eq_false_iff, decide_eq_false_iff_not,
    beq_eq_false_iff_ne]
  omega

/-- A numeral has no blanks. -/
theorem IsNumeral.isBlank {cs : List Char} {n : ℕ} (h : IsNumeral cs n) :
    ∀ c ∈ cs, isBlank c = false :=
  fun c hc => isBlank_of_isDigit (h.isDigit c hc)

/-- Neither has a natural number. -/
theorem WritesNat.isBlank {cs : List Char} {n : ℕ} (h : WritesNat cs n) :
    ∀ c ∈ cs, isBlank c = false := by
  obtain h | ⟨rfl, h⟩ := h
  · exact h.isBlank
  · exact List.forall_mem_cons.mpr ⟨rfl, h.isBlank⟩

/-- Neither has an integer. -/
theorem WritesInt.isBlank {cs : List Char} {n : ℤ} (h : WritesInt cs n) :
    ∀ c ∈ cs, isBlank c = false := by
  obtain h | ⟨rfl, h⟩ | ⟨rfl, h⟩ := h
  · exact h.isBlank
  · exact List.forall_mem_cons.mpr ⟨rfl, h.isBlank⟩
  · exact List.forall_mem_cons.mpr ⟨rfl, h.isBlank⟩

/-- **A text that says a natural number** up to a bound, amid blanks. -/
def SaysNat (bound : ℕ) (text : String) (n : ℕ) : Prop :=
  ∃ core, Amid core text ∧ WritesNat core n ∧ n ≤ bound

/-- **A text that says an integer** from `-(bound + 1)` to `bound`, amid blanks. -/
def SaysInt (bound : ℕ) (text : String) (n : ℤ) : Prop :=
  ∃ core, Amid core text ∧ WritesInt core n ∧ -(bound + 1 : ℤ) ≤ n ∧ n ≤ bound

/-- Such a number is read from the trimmed text. -/
theorem readUnsigned_trim_eq_ok_iff {bound n : ℕ} {text : String} :
    readUnsigned bound (trim text) = .ok n ↔ SaysNat bound text n := by
  rw [readUnsigned_eq_ok_iff]
  constructor
  · exact fun ⟨h, hle⟩ => ⟨_, amid_trim text, h, hle⟩
  · rintro ⟨core, hamid, h, hle⟩
    rw [hamid.toList_trim (bare_of_forall h.isBlank)]
    exact ⟨h, hle⟩

/-- So is such an integer. -/
theorem readSigned_trim_eq_ok_iff {bound : ℕ} {n : ℤ} {text : String} :
    readSigned bound (trim text) = .ok n ↔ SaysInt bound text n := by
  rw [readSigned_eq_ok_iff]
  constructor
  · exact fun ⟨h, hrange⟩ => ⟨_, amid_trim text, h, hrange⟩
  · rintro ⟨core, hamid, h, hrange⟩
    rw [hamid.toList_trim (bare_of_forall h.isBlank)]
    exact ⟨h, hrange⟩

end Text

namespace TimeZone

variable (zones : ZoneDirectory)

/-- **A text that names a zone**: the name under which the directory has it stands
amid blanks. -/
def NamedBy (z : TimeZone) (text : String) : Prop :=
  ∃ name : String, name ≠ "" ∧ Text.Bare name.toList ∧ Text.Amid name.toList text
    ∧ zones name = some z

variable {zones}

/-- **The zone that has to be named is the one that the text names.** -/
theorem required_eq_ok_iff {name : Option String} {z : TimeZone} :
    required zones name = .ok z ↔ ∃ text, name = some text ∧ z.NamedBy zones text := by
  unfold required
  constructor
  · intro h
    split at h
    · exact nomatch h
    · rename_i hne
      split at h
      · rename_i z' hfound
        obtain rfl := Except.ok.inj h
        cases name with
        | none => exact absurd rfl hne
        | some text =>
          exact ⟨text, rfl, _, hne, Text.bare_trim text, Text.amid_trim text, hfound⟩
      · exact nomatch h
  · rintro ⟨text, rfl, name, hne, hbare, hamid, hfound⟩
    have htrim : Text.trim text = name := String.toList_inj.mp (hamid.toList_trim hbare)
    rw [Option.getD_some, htrim]
    split
    · contradiction
    · rw [hfound]

/-- A text of blanks names no zone. -/
theorem required_of_isBlank {text : String} (h : ∀ c ∈ text.toList, Text.isBlank c = true) :
    required zones (some text) = .error .unset := by
  have hamid : Text.Amid [] text := ⟨text.toList, [], by simp, h, List.forall_mem_nil _⟩
  have htrim : Text.trim text = "" :=
    String.toList_inj.mp (hamid.toList_trim (Text.bare_of_forall (List.forall_mem_nil _)))
  rw [required, Option.getD_some, htrim]
  rfl

end TimeZone

/-! ## One setting -/

/-- **A number in three layers**: the variable that may hold it, its place in the file, and its
default. What is read from a variable is what its text says. -/
structure Slot (α : Type) where
  key : String
  read : String → Except Text.IntegerFault α
  /-- What a text says, blanks around it included. -/
  Says : String → α → Prop
  read_trim : ∀ text n, read (Text.trim text) = .ok n ↔ Says text n
  inFile : Settings → Option α
  default : α

namespace Slot

variable {α β : Type} (s : Slot α) (file : Settings) (env : Environment)

/-- **The variable can be used**: if it is set, its text says a number. -/
def Usable : Prop := ∀ text, env s.key = some text → ∃ n, s.Says text n

/-- **The number in effect**: that of the variable, else that of the file, else the default. -/
inductive InEffect : α → Prop where
  | environment {text : String} {n : α} (henv : env s.key = some text) (h : s.Says text n) :
      InEffect n
  | file {n : α} (henv : env s.key = none) (hfile : s.inFile file = some n) : InEffect n
  | default (henv : env s.key = none) (hfile : s.inFile file = none) : InEffect s.default

/-- The number as it is computed. -/
def value? : Except ConfigFault α := do
  return Config.setting (← Config.numberIn? env s.key s.read) (s.inFile file) s.default

/-- Whatever goes on with the number goes on with what is computed here. -/
theorem value?_bind (f : α → Except ConfigFault β) :
    s.value? file env >>= f
      = Config.numberIn? env s.key s.read >>= fun n =>
          f (Config.setting n (s.inFile file) s.default) := by
  unfold value?
  cases Config.numberIn? env s.key s.read <;> rfl

variable {s file env} {n : α}

/-- **What is computed is the number in effect.** -/
theorem value?_eq_ok_iff : s.value? file env = .ok n ↔ s.InEffect file env n := by
  unfold value? Config.numberIn?
  constructor
  · intro h
    split at h
    · rename_i henv
      obtain rfl := Except.ok.inj h
      cases hfile : s.inFile file with
      | none => exact .default henv hfile
      | some n => exact .file henv hfile
    · rename_i text henv
      split at h
      · rename_i n' hread
        obtain rfl := Except.ok.inj h
        exact .environment henv ((s.read_trim text n').mp hread)
      · exact nomatch h
  · rintro (⟨henv, h⟩ | ⟨henv, hfile⟩ | ⟨henv, hfile⟩)
    · rw [henv]
      dsimp only
      rw [(s.read_trim _ n).mpr h]
      rfl
    · rw [henv, hfile]
      rfl
    · rw [henv, hfile]
      rfl

/-- There is one number in effect at most. -/
theorem InEffect.unique {n' : α} (h : s.InEffect file env n) (h' : s.InEffect file env n') :
    n = n' :=
  Except.ok.inj ((value?_eq_ok_iff.mpr h).symm.trans (value?_eq_ok_iff.mpr h'))

/-- **There is one if the variable can be used**, whatever the file holds. -/
theorem exists_inEffect_iff : (∃ n, s.InEffect file env n) ↔ s.Usable env := by
  constructor
  · rintro ⟨n, ⟨henv, h⟩ | ⟨henv, -⟩ | ⟨henv, -⟩⟩ text htext
    · obtain rfl := Option.some.inj (henv.symm.trans htext)
      exact ⟨n, h⟩
    · exact nomatch henv.symm.trans htext
    · exact nomatch henv.symm.trans htext
  · intro h
    cases henv : env s.key with
    | some text =>
      obtain ⟨n, hn⟩ := h text henv
      exact ⟨n, .environment henv hn⟩
    | none =>
      cases hfile : s.inFile file with
      | some n => exact ⟨n, .file henv hfile⟩
      | none => exact ⟨_, .default henv hfile⟩

/-- **Where the variable is set the file is not looked at.** -/
theorem value?_congr {file' : Settings} (h : env s.key = none → s.inFile file = s.inFile file') :
    s.value? file env = s.value? file' env := by
  unfold value?
  cases henv : env s.key with
  | none => rw [h henv]
  | some text =>
    unfold Config.numberIn?
    rw [henv]
    dsimp only
    cases s.read (Text.trim text) <;> rfl

end Slot

/-! ## All settings -/

namespace Config

/-- A setting that is a natural number. -/
def count (key : String) (bound : ℕ) (inFile : Settings → Option ℕ) (default : ℕ) : Slot ℕ where
  key
  read := Text.readUnsigned bound
  Says := Text.SaysNat bound
  read_trim _ _ := Text.readUnsigned_trim_eq_ok_iff
  inFile
  default

/-- The number of snapshots submitted together. -/
def batchSizeSlot : Slot ℕ :=
  count "COMPLIANCE_BATCH_SIZE" (2 ^ 64 - 1) Settings.batchSize 10

/-- The number of retries. -/
def maxRetriesSlot : Slot ℕ :=
  count "COMPLIANCE_MAX_RETRIES" (2 ^ 32 - 1) Settings.maxRetries 5

/-- The first delay in milliseconds. -/
def baseDelaySlot : Slot ℕ :=
  count "COMPLIANCE_RETRY_BASE_DELAY_MS" (2 ^ 64 - 1) Settings.retryBaseDelay 1000

/-- The greatest delay in milliseconds. -/
def maxDelaySlot : Slot ℕ :=
  count "COMPLIANCE_RETRY_MAX_DELAY_MS" (2 ^ 64 - 1) Settings.retryMaxDelay 30000

/-- The hours for which events are recent. -/
def hoursSlot : Slot ℤ where
  key := "COMPLIANCE_EVENT_WINDOW_HOURS"
  read := Text.readSigned (2 ^ 63 - 1)
  Says := Text.SaysInt (2 ^ 63 - 1)
  read_trim _ _ := Text.readSigned_trim_eq_ok_iff
  inFile := Settings.windowHours
  default := 48

variable (zones : ZoneDirectory) (file : Settings) (env : Environment)

/-- **The zone in effect** is named by the variable, else by the file. There is no default. -/
def ZoneInEffect (z : TimeZone) : Prop :=
  ∃ text, (env "TIMEZONE" <|> file.timezone) = some text ∧ z.NamedBy zones text

/-- **The settings that make a configuration.** Whatever variable is set can be used, and of the
numbers in effect two are within their bounds. -/
structure Acceptable : Prop where
  zone : ∃ z, ZoneInEffect zones file env z
  batchSize : batchSizeSlot.Usable env
  maxRetries : maxRetriesSlot.Usable env
  baseDelay : baseDelaySlot.Usable env
  maxDelay : maxDelaySlot.Usable env
  hours : hoursSlot.Usable env
  batchSize_pos : ∀ n, batchSizeSlot.InEffect file env n → 1 ≤ n
  hours_range : ∀ n, hoursSlot.InEffect file env n → 0 < n ∧ n * 3600000 ≤ 2 ^ 63 - 1

/-- **The configuration that they make.** -/
structure Resolved (config : Config) : Prop where
  zone : ZoneInEffect zones file env config.zone
  batchSize : batchSizeSlot.InEffect file env config.batchSize
  batchSize_pos : 1 ≤ config.batchSize
  maxRetries : maxRetriesSlot.InEffect file env config.retry.maxRetries
  baseDelay : baseDelaySlot.InEffect file env config.retry.baseDelay
  maxDelay : ∃ n, maxDelaySlot.InEffect file env n
    ∧ config.retry.maxDelay = max n config.retry.baseDelay
  window : ∃ n, hoursSlot.InEffect file env n ∧ config.window = n * 3600000
  window_range : 0 < config.window ∧ config.window ≤ 2 ^ 63 - 1

/-- **Files that agree in what counts**: in the settings whose variables are not set. -/
structure AgreeWhereUnset (file' : Settings) : Prop where
  zone : env "TIMEZONE" = none → file.timezone = file'.timezone
  batchSize : env batchSizeSlot.key = none → file.batchSize = file'.batchSize
  maxRetries : env maxRetriesSlot.key = none → file.maxRetries = file'.maxRetries
  baseDelay : env baseDelaySlot.key = none → file.retryBaseDelay = file'.retryBaseDelay
  maxDelay : env maxDelaySlot.key = none → file.retryMaxDelay = file'.retryMaxDelay
  hours : env hoursSlot.key = none → file.windowHours = file'.windowHours

/-- **The settings are resolved one by one**, in the order in which their faults are found. -/
theorem resolve_eq : resolve zones file env = (do
    let zone ← (TimeZone.required zones (env "TIMEZONE" <|> file.timezone)).mapError .zone
    let batchSize ← batchSizeSlot.value? file env
    if batchSize = 0 then throw .batchSizeZero
    let baseDelay ← baseDelaySlot.value? file env
    let maxDelay ← maxDelaySlot.value? file env
    let maxRetries ← maxRetriesSlot.value? file env
    let hours ← hoursSlot.value? file env
    if hours ≤ 0 then throw .windowNotPositive
    if maxWindowHours < hours then throw (.windowOutOfRange hours)
    return {
      zone, batchSize
      retry := ⟨maxRetries, baseDelay, max maxDelay baseDelay⟩
      window := hours * hourMillis }) := by
  simp only [Slot.value?_bind]
  rfl

/-- What is thrown under a condition is no result. -/
theorem ite_throw_eq_ok_iff {ε α β : Type} {c : Prop} [Decidable c] {fault : ε}
    {f : α → Except ε β} {x : Except ε β} {b : β} :
    (if c then throw fault >>= f else x) = .ok b ↔ ¬ c ∧ x = .ok b := by
  split
  · rename_i h
    exact iff_of_false (fun h => nomatch h) fun hc => hc.1 h
  · rename_i h
    exact (and_iff_right h).symm

/-- The zone is found if it is named. -/
theorem mapError_required_eq_ok_iff {name : Option String} {z : TimeZone} :
    (TimeZone.required zones name).mapError ConfigFault.zone = .ok z
      ↔ ∃ text, name = some text ∧ z.NamedBy zones text := by
  rw [← TimeZone.required_eq_ok_iff]
  cases TimeZone.required zones name with
  | error fault => exact iff_of_false (fun h => nomatch h) fun h => nomatch h
  | ok z' => exact ⟨fun h => congrArg _ (Except.ok.inj h), fun h => congrArg _ (Except.ok.inj h)⟩

/-- The hours that can be counted in milliseconds. -/
theorem not_maxWindowHours_lt_iff {hours : ℤ} :
    ¬ maxWindowHours < hours ↔ hours * 3600000 ≤ 2 ^ 63 - 1 := by
  rw [maxWindowHours]
  omega

variable {zones file env}

/-- **A batch runs with the configuration that its settings make.** -/
theorem resolve_eq_ok_iff {config : Config} :
    resolve zones file env = .ok config ↔ Resolved zones file env config := by
  rw [resolve_eq]
  simp only [bind_eq_ok_iff, ite_throw_eq_ok_iff, mapError_required_eq_ok_iff,
    Slot.value?_eq_ok_iff, not_maxWindowHours_lt_iff]
  constructor
  · rintro ⟨zone, hzone, batchSize, hbatch, hne, baseDelay, hbase, maxDelay, hmax, maxRetries,
      hretries, hours, hhours, hpos, hrange, hconfig⟩
    obtain rfl := Except.ok.inj hconfig
    refine ⟨hzone, hbatch, Nat.one_le_iff_ne_zero.mpr hne, hretries, hbase, ⟨maxDelay, hmax, rfl⟩,
      ⟨hours, hhours, rfl⟩, ?_, hrange⟩
    exact Int.mul_pos (not_le.mp hpos) (by decide)
  · obtain ⟨zone, batchSize, ⟨maxRetries, baseDelay, maxDelay⟩, window⟩ := config
    rintro ⟨hzone, hbatch, hpos, hretries, hbase, ⟨m, hmax, hraised⟩, ⟨hours, hhours, hwindow⟩,
      hwindow_pos, hrange⟩
    dsimp only at *
    -- what the steps compute is put in place of the fields, so that the last step gives them back
    subst hraised hwindow
    exact ⟨zone, hzone, batchSize, hbatch, Nat.one_le_iff_ne_zero.mp hpos, baseDelay, hbase, m,
      hmax, maxRetries, hretries, hours, hhours, by omega, hrange, rfl⟩

/-- **There is a configuration if the settings are acceptable.** -/
theorem exists_resolved_iff :
    (∃ config, Resolved zones file env config) ↔ Acceptable zones file env := by
  constructor
  · rintro ⟨config, h⟩
    obtain ⟨m, hmax, -⟩ := h.maxDelay
    obtain ⟨hours, hhours, hwindow⟩ := h.window
    have hrange := h.window_range
    exact {
      zone := ⟨_, h.zone⟩
      batchSize := Slot.exists_inEffect_iff.mp ⟨_, h.batchSize⟩
      maxRetries := Slot.exists_inEffect_iff.mp ⟨_, h.maxRetries⟩
      baseDelay := Slot.exists_inEffect_iff.mp ⟨_, h.baseDelay⟩
      maxDelay := Slot.exists_inEffect_iff.mp ⟨m, hmax⟩
      hours := Slot.exists_inEffect_iff.mp ⟨hours, hhours⟩
      batchSize_pos := fun n hn => h.batchSize.unique hn ▸ h.batchSize_pos
      hours_range := fun n hn => by
        rw [hwindow, hhours.unique hn] at hrange
        omega }
  · intro h
    obtain ⟨zone, hzone⟩ := h.zone
    obtain ⟨batchSize, hbatch⟩ := Slot.exists_inEffect_iff.mpr h.batchSize
    obtain ⟨maxRetries, hretries⟩ := Slot.exists_inEffect_iff.mpr h.maxRetries
    obtain ⟨baseDelay, hbase⟩ := Slot.exists_inEffect_iff.mpr h.baseDelay
    obtain ⟨maxDelay, hmax⟩ := Slot.exists_inEffect_iff.mpr h.maxDelay
    obtain ⟨hours, hhours⟩ := Slot.exists_inEffect_iff.mpr h.hours
    obtain ⟨hpos, hrange⟩ := h.hours_range hours hhours
    exact ⟨⟨zone, batchSize, ⟨maxRetries, baseDelay, max maxDelay baseDelay⟩, hours * 3600000⟩, {
      zone := hzone
      batchSize := hbatch
      batchSize_pos := h.batchSize_pos batchSize hbatch
      maxRetries := hretries
      baseDelay := hbase
      maxDelay := ⟨maxDelay, hmax, rfl⟩
      window := ⟨hours, hhours, rfl⟩
      window_range := ⟨Int.mul_pos hpos (by decide), hrange⟩ }⟩

/-- **Files that agree in what counts are resolved alike**, be it to a configuration or to a
fault. -/
theorem resolve_congr {file' : Settings} (h : AgreeWhereUnset file env file') :
    resolve zones file env = resolve zones file' env := by
  have hzone : (env "TIMEZONE" <|> file.timezone) = (env "TIMEZONE" <|> file'.timezone) := by
    cases hname : env "TIMEZONE" with
    | some text => rfl
    | none => rw [h.zone hname]
  rw [resolve_eq, resolve_eq, hzone, batchSizeSlot.value?_congr h.batchSize,
    baseDelaySlot.value?_congr h.baseDelay, maxDelaySlot.value?_congr h.maxDelay,
    maxRetriesSlot.value?_congr h.maxRetries, hoursSlot.value?_congr h.hours]

variable (zones file env)

/-- **Settings in layers.** For every file and every environment there is a configuration exactly
if the settings are acceptable: the zone that is named is known, every variable that is set can be
used, and the numbers in effect are within their bounds. A name of blanks in the environment hides
the one in the file. What each part of the configuration then is is known from its own layers,
and what the file holds where a variable is set makes no difference. The numbers of every
configuration are fit to divide a batch, to look back in time and to wait. -/
theorem resolve_layers :
    ((∃ config, resolve zones file env = .ok config) ↔ Acceptable zones file env)
      ∧ (∀ config, resolve zones file env = .ok config ↔ Resolved zones file env config)
      ∧ (∀ file', AgreeWhereUnset file env file' →
          resolve zones file env = resolve zones file' env)
      ∧ (∀ text, env "TIMEZONE" = some text → (∀ c ∈ text.toList, Text.isBlank c = true) →
          resolve zones file env = .error (.zone .unset))
      ∧ ∀ config, resolve zones file env = .ok config →
          1 ≤ config.batchSize ∧ 0 < config.window
            ∧ config.retry.baseDelay ≤ config.retry.maxDelay := by
  refine ⟨?_, fun config => resolve_eq_ok_iff, fun file' => resolve_congr,
    fun text henv hblank => ?_, fun config h => ?_⟩
  · simp only [resolve_eq_ok_iff]
    exact exists_resolved_iff
  · have hname : (env "TIMEZONE" <|> file.timezone) = some text := by
      rw [henv]
      rfl
    rw [resolve_eq, hname, TimeZone.required_of_isBlank hblank]
    rfl
  · have hresolved := resolve_eq_ok_iff.mp h
    obtain ⟨m, -, hraised⟩ := hresolved.maxDelay
    exact ⟨hresolved.batchSize_pos, hresolved.window_range.1, hraised ▸ le_max_right _ _⟩

end Config

namespace Sample

/-! ### A file of which not everything can be used -/

/-- The file names no zone that is known, and no batch is of its size. -/
def spoiled : Settings :=
  { timezone := some "Atlantis/Capital", batchSize := some 0, maxRetries := none,
    retryBaseDelay := some 2000, retryMaxDelay := none, windowHours := some 24 }

/-- The same file where two variables stand in for what cannot be used. -/
def repaired : Settings := { spoiled with timezone := none, batchSize := some 25 }

/-- The environment sets the zone and two of the numbers, with blanks around some of
them. -/
def surroundings : Environment
  | "TIMEZONE" => some " Europe/Paris\n"
  | "COMPLIANCE_BATCH_SIZE" => some "\t+3 "
  | "COMPLIANCE_RETRY_MAX_DELAY_MS" => some "500"
  | _ => none

/-- An environment that hides the zone of any file. -/
def blankSurroundings : Environment
  | "TIMEZONE" => some " \t"
  | _ => none

/-- The clocks of Paris in the year 2025. -/
def paris : TimeZone where
  name := "Europe/Paris"
  first := 3600
  changes := [⟨1743296400, 7200⟩, ⟨1761440400, 3600⟩]

/-- A directory of two zones. -/
def zones : ZoneDirectory
  | "Europe/Paris" => some paris
  | "UTC" => some ⟨"UTC", 0, []⟩
  | _ => none

/-- What the batch runs with. -/
def mended : Config where
  zone := paris
  batchSize := 3
  retry := ⟨5, 2000, 2000⟩
  window := 86400000

end Sample

/-- **What the environment sets is not looked for in the file.** The greatest delay is
raised to the first, which is from the file. -/
theorem resolve_layers_spoiled :
    Config.resolve Sample.zones Sample.spoiled Sample.surroundings = .ok Sample.mended
      ∧ Config.Acceptable Sample.zones Sample.spoiled Sample.surroundings
      ∧ Config.Resolved Sample.zones Sample.spoiled Sample.surroundings Sample.mended
      ∧ Config.resolve Sample.zones Sample.repaired Sample.surroundings = .ok Sample.mended
      ∧ Config.resolve Sample.zones Sample.spoiled Sample.blankSurroundings
          = .error (.zone .unset) := by
  have hok : Config.resolve Sample.zones Sample.spoiled Sample.surroundings
      = .ok Sample.mended := rfl
  have hagree : Config.AgreeWhereUnset Sample.spoiled Sample.surroundings Sample.repaired := {
    zone := fun h => nomatch h
    batchSize := fun h => nomatch h
    maxRetries := fun _ => rfl
    baseDelay := fun _ => rfl
    maxDelay := fun _ => rfl
    hours := fun _ => rfl }
  obtain ⟨haccepted, hresolved, hcongr, -⟩ :=
    Config.resolve_layers Sample.zones Sample.spoiled Sample.surroundings
  obtain ⟨-, -, -, hblank, -⟩ :=
    Config.resolve_layers Sample.zones Sample.spoiled Sample.blankSurroundings
  exact ⟨hok, haccepted.mp ⟨_, hok⟩, (hresolved _).mp hok, (hcongr _ hagree).symm.trans hok,
    hblank " \t" rfl (List.all_eq_true.mp rfl)⟩

end FleetCompliance
