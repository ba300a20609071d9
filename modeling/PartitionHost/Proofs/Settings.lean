import PartitionHost.Proofs.Text.LowerCase
import PartitionHost.Proofs.Text.Natural
import PartitionHost.Settings

/-!
# What settings are read from

An environment gives settings exactly if it gives each of them and they are usable together
(`Settings.Given`), and else it is refused for the first thing that is wrong with it (`Settings.Refused`). Three
variables count and no others.
-/

namespace PartitionHost.Settings

variable {env : Environment} {settings : Settings} {fault : Fault}

/-! ## What a variable gives -/

/-- This many whole seconds below `2 ^ 64`, or the default where the variable is not set. -/
inductive GivesSeconds (env : Environment) (name : String) (default : Duration) : Duration → Prop where
  | unset (h : env.get? name = none) : GivesSeconds env name default default
  | set {value : String} {n : Nat} (h : env.get? name = some value) (hn : Text.Spells value n)
      (hlt : n < 0x10000000000000000) : GivesSeconds env name default (.ofSeconds n)

/-- The positions have names that may be written with ASCII letters of either case. -/
inductive Names (word : String) : Position → Prop where
  | start (h : word.toLower = "start") : Names word .startOfStream
  | startOfStream (h : word.toLower = "start-of-stream") : Names word .startOfStream
  | latest (h : word.toLower = "latest") : Names word .latest

inductive GivesPosition (env : Environment) (default : Position) : Position → Prop where
  | unset (h : env.get? positionVariable = none) : GivesPosition env default default
  | set {word : String} {p : Position} (h : env.get? positionVariable = some word)
      (hp : Names word p) : GivesPosition env default p

/-! ## What an environment gives -/

/-- The settings that an environment gives before it is asked whether they are usable together. -/
structure Reads (env : Environment) (s : Settings) : Prop where
  leaseTerm : GivesSeconds env leaseVariable (.ofSeconds 30) s.leaseTerm
  scanInterval : GivesSeconds env scanVariable (.ofSeconds 10) s.scanInterval
  initialPosition : GivesPosition env .startOfStream s.initialPosition
  eventBuffer : s.eventBuffer = 64

/-- The settings that an environment gives, which are usable together. -/
structure Given (env : Environment) (s : Settings) : Prop extends Reads env s where
  scans : 0 < s.scanInterval.nanos
  shorter : s.scanInterval < s.leaseTerm

/-- Why an environment gives no settings: each check is made where the ones above it pass. -/
inductive Refused (env : Environment) : Fault → Prop where
  | leaseTerm {value : String} {cause : Text.NumeralFault}
      (h : env.get? leaseVariable = some value)
      (hcause : Text.Misspells 0x10000000000000000 value cause) :
      Refused env (.badSeconds leaseVariable value cause)
  | scanInterval {value : String} {cause : Text.NumeralFault} {lease : Duration}
      (hlease : GivesSeconds env leaseVariable (.ofSeconds 30) lease)
      (h : env.get? scanVariable = some value)
      (hcause : Text.Misspells 0x10000000000000000 value cause) :
      Refused env (.badSeconds scanVariable value cause)
  | initialPosition {word : String} {lease scan : Duration}
      (hlease : GivesSeconds env leaseVariable (.ofSeconds 30) lease)
      (hscan : GivesSeconds env scanVariable (.ofSeconds 10) scan)
      (h : env.get? positionVariable = some word) (hnone : ∀ p, ¬ Names word p) :
      Refused env (.badPosition (Text.lowerCase word))
  | zeroLease {s : Settings} (hs : Reads env s) (h : s.leaseTerm.nanos = 0) : Refused env .zeroLease
  | zeroScan {s : Settings} (hs : Reads env s) (hlease : 0 < s.leaseTerm.nanos)
      (h : s.scanInterval.nanos = 0) : Refused env .zeroScan
  | scanNotShorter {s : Settings} (hs : Reads env s) (hlease : 0 < s.leaseTerm.nanos)
      (hscan : 0 < s.scanInterval.nanos) (h : s.leaseTerm ≤ s.scanInterval) :
      Refused env (.scanNotShorter s.scanInterval s.leaseTerm)

/-! ## One variable -/

variable {name value word : String} {default d : Duration} {cause : Text.NumeralFault} {p : Position}

theorem secondsFrom_of_gives (h : GivesSeconds env name default d) :
    secondsFrom env name default = .ok d := by
  cases h with
  | unset h => rw [secondsFrom, h]
  | @set value n h hn hlt =>
      have hread : Text.readNatural (1 <<< 64) value = .ok n :=
        (Text.readNatural_eq_ok_iff (by decide)).2 ⟨hn, hlt⟩
      simp only [secondsFrom, h, hread]

theorem secondsFrom_of_misspells (h : env.get? name = some value)
    (hcause : Text.Misspells 0x10000000000000000 value cause) :
    secondsFrom env name default = .error (.badSeconds name value cause) := by
  have hread : Text.readNatural (1 <<< 64) value = .error cause :=
    (Text.readNatural_eq_error_iff (by decide)).2 hcause
  simp only [secondsFrom, h, hread]

theorem gives_or_misspells (env : Environment) (name : String) (default : Duration) :
    (∃ d, GivesSeconds env name default d) ∨ ∃ value cause, env.get? name = some value ∧
      Text.Misspells 0x10000000000000000 value cause := by
  cases h : env.get? name with
  | none => exact .inl ⟨default, .unset h⟩
  | some value =>
      have hbound : 0 < 0x10000000000000000 := by decide
      rcases Text.spells_or_misspells hbound value with ⟨n, hn, hlt⟩ | ⟨cause, hcause⟩
      · exact .inl ⟨_, .set h hn hlt⟩
      · exact .inr ⟨value, cause, rfl, hcause⟩

/-- The lower case of all letters finds the names of positions only where that of the ASCII letters does. -/
theorem position_eq (word : String) : position word =
    if word.toLower = "start" ∨ word.toLower = "start-of-stream" then .ok .startOfStream
    else if word.toLower = "latest" then .ok .latest
    else .error (.badPosition (Text.lowerCase word)) := by
  have hstart : Text.lowerCase word = "start" ↔ word.toLower = "start" :=
    Text.lowerCase_eq_iff (by simp)
  have hstream : Text.lowerCase word = "start-of-stream" ↔ word.toLower = "start-of-stream" :=
    Text.lowerCase_eq_iff (by simp)
  have hlatest : Text.lowerCase word = "latest" ↔ word.toLower = "latest" :=
    Text.lowerCase_eq_iff (by simp)
  simp only [position, hstart, hstream, hlatest]

theorem position_of_names (h : Names word p) : position word = .ok p := by
  rw [position_eq]
  cases h with
  | start h => rw [if_pos (.inl h)]
  | startOfStream h => rw [if_pos (.inr h)]
  | latest h => rw [if_neg (by simp [h]), if_pos h]

theorem position_of_not_names (h : ∀ p, ¬ Names word p) :
    position word = .error (.badPosition (Text.lowerCase word)) := by
  rw [position_eq, if_neg, if_neg]
  · exact fun hlatest => h _ (.latest hlatest)
  · rintro (hstart | hstream)
    · exact h _ (.start hstart)
    · exact h _ (.startOfStream hstream)

theorem positionFrom_of_gives {default : Position} (h : GivesPosition env default p) :
    positionFrom env default = .ok p := by
  cases h with
  | unset h => rw [positionFrom, h]
  | set h hp => simp only [positionFrom, h, position_of_names hp]

/-! ## All of them -/

theorem load_of_reads {s : Settings} (h : Reads env s) :
    load env = s.validate.map fun _ => s := by
  obtain ⟨lease, scan, position, buffer⟩ := s
  obtain ⟨hlease, hscan, hposition, rfl⟩ := h
  simp only [load, secondsFrom_of_gives hlease, secondsFrom_of_gives hscan,
    positionFrom_of_gives hposition]
  rfl

theorem validate_of_shorter {s : Settings} (hscan : 0 < s.scanInterval.nanos)
    (h : s.scanInterval < s.leaseTerm) : s.validate = .ok () := by
  have hlease : s.leaseTerm.nanos ≠ 0 := Nat.ne_of_gt (Nat.lt_trans hscan h)
  have hle : ¬ s.leaseTerm ≤ s.scanInterval := Nat.not_le.2 h
  rw [validate, if_neg hlease, if_neg (Nat.ne_of_gt hscan), if_neg hle]

theorem load_of_given (h : Given env settings) : load env = .ok settings := by
  rw [load_of_reads h.toReads, validate_of_shorter h.scans h.shorter]
  rfl

theorem load_of_refused (h : Refused env fault) : load env = .error fault := by
  cases h with
  | leaseTerm h hcause =>
      rw [load, secondsFrom_of_misspells h hcause]
      rfl
  | scanInterval hlease h hcause =>
      simp only [load, secondsFrom_of_gives hlease, secondsFrom_of_misspells h hcause]
      rfl
  | initialPosition hlease hscan h hnone =>
      simp only [load, secondsFrom_of_gives hlease, secondsFrom_of_gives hscan, positionFrom, h,
        position_of_not_names hnone]
      rfl
  | zeroLease hs h =>
      rw [load_of_reads hs, validate, if_pos h]
      rfl
  | zeroScan hs hlease h =>
      rw [load_of_reads hs, validate, if_neg (by omega), if_pos h]
      rfl
  | scanNotShorter hs hlease hscan h =>
      rw [load_of_reads hs, validate, if_neg (by omega), if_neg (by omega), if_pos h]
      rfl

theorem given_or_refused (env : Environment) : (∃ s, Given env s) ∨ ∃ fault, Refused env fault := by
  rcases gives_or_misspells env leaseVariable (.ofSeconds 30) with ⟨lease, hlease⟩ | ⟨_, _, h, hcause⟩
  · rcases gives_or_misspells env scanVariable (.ofSeconds 10) with ⟨scan, hscan⟩ | ⟨_, _, h, hcause⟩
    · by_cases hposition : ∃ p, GivesPosition env .startOfStream p
      · obtain ⟨p, hp⟩ := hposition
        have hs : Reads env ⟨lease, scan, p, 64⟩ := ⟨hlease, hscan, hp, rfl⟩
        by_cases hzero : lease.nanos = 0
        · exact .inr ⟨_, .zeroLease hs hzero⟩
        · by_cases hzero' : scan.nanos = 0
          · exact .inr ⟨_, .zeroScan hs (Nat.pos_of_ne_zero hzero) hzero'⟩
          · by_cases hle : lease.nanos ≤ scan.nanos
            · exact .inr ⟨_, .scanNotShorter hs (Nat.pos_of_ne_zero hzero) (Nat.pos_of_ne_zero hzero') hle⟩
            · exact .inl ⟨_, hs, Nat.pos_of_ne_zero hzero', Nat.lt_of_not_le hle⟩
      · cases hword : env.get? positionVariable with
        | none => exact absurd ⟨_, .unset hword⟩ hposition
        | some word =>
            have hnone : ∀ p, ¬ Names word p := fun p hp => hposition ⟨p, .set hword hp⟩
            exact .inr ⟨_, .initialPosition hlease hscan hword hnone⟩
    · exact .inr ⟨_, .scanInterval hlease h hcause⟩
  · exact .inr ⟨_, .leaseTerm h hcause⟩

theorem given_of_load (h : load env = .ok settings) : Given env settings := by
  rcases given_or_refused env with ⟨s, hs⟩ | ⟨fault, hrefused⟩
  · rw [load_of_given hs] at h
    obtain rfl := Except.ok.inj h
    exact hs
  · rw [load_of_refused hrefused] at h
    cases h

theorem refused_of_load (h : load env = .error fault) : Refused env fault := by
  rcases given_or_refused env with ⟨s, hs⟩ | ⟨fault', hrefused⟩
  · rw [load_of_given hs] at h
    cases h
  · rw [load_of_refused hrefused] at h
    obtain rfl := Except.error.inj h
    exact hrefused

theorem scanInterval_lt_of_load (h : load env = .ok settings) :
    settings.scanInterval < settings.leaseTerm := (given_of_load h).shorter

theorem load_congr {env' : Environment}
    (h : ∀ name ∈ [leaseVariable, scanVariable, positionVariable], env.get? name = env'.get? name) :
    load env = load env' := by
  have hlease := h leaseVariable (by simp)
  have hscan := h scanVariable (by simp)
  have hposition := h positionVariable (by simp)
  simp only [load, secondsFrom, positionFrom, hlease, hscan, hposition]

/--
An environment gives settings exactly if its three variables, where they are set, are whole seconds below `2 ^ 64`
and the name of a position in any case of its ASCII letters, and the host scans more than once in a term. Those
are the settings, and they stand up to being validated. Else the first check that fails says why. Other
variables change nothing.
-/
theorem load_follows_environment :
    (∀ env settings, (load env = .ok settings ↔ Given env settings) ∧
      (Given env settings → settings.validate = .ok ())) ∧
    (∀ env fault, load env = .error fault ↔ Refused env fault) ∧
    ∀ env env' : Environment,
      (∀ name ∈ [leaseVariable, scanVariable, positionVariable], env.get? name = env'.get? name) →
      load env = load env' := by
  refine ⟨fun env settings => ⟨⟨given_of_load, load_of_given⟩, fun h => ?_⟩,
    fun env fault => ⟨refused_of_load, load_of_refused⟩, fun env env' => load_congr⟩
  exact validate_of_shorter h.scans h.shorter

/-- A term with a sign and zeros in front, and a position in mixed case. -/
def mixedCase : Environment :=
  .ofList [(leaseVariable, "+0060"), (scanVariable, "5"), (positionVariable, "LaTeST")]

theorem load_follows_environment_mixedCase :
    load mixedCase = .ok ⟨.ofSeconds 60, .ofSeconds 5, .latest, 64⟩ ∧
    validate ⟨.ofSeconds 60, .ofSeconds 5, .latest, 64⟩ = .ok () ∧
    load mixedCase = load (mixedCase.insert "PATH" "/bin") := by
  have hlease : mixedCase.get? leaseVariable = some "+0060" := by decide +kernel
  have hscan : mixedCase.get? scanVariable = some "5" := by decide +kernel
  have hposition : mixedCase.get? positionVariable = some "LaTeST" := by decide +kernel
  have hgiven : Given mixedCase ⟨.ofSeconds 60, .ofSeconds 5, .latest, 64⟩ :=
    { leaseTerm := .set hlease ⟨['0', '0', '6', '0'], .inl rfl, by decide, by simp [Text.AreDigits], by decide⟩ (by decide)
      scanInterval := .set hscan ⟨['5'], .inr (by decide), by decide, by simp [Text.AreDigits], by decide⟩ (by decide)
      initialPosition := .set hposition (.latest (by decide +kernel))
      eventBuffer := rfl
      scans := by decide
      shorter := by decide }
  obtain ⟨haccepts, -, hothers⟩ := load_follows_environment
  refine ⟨(haccepts _ _).1.2 hgiven, (haccepts _ _).2 hgiven, hothers _ _ fun name hname => ?_⟩
  simp only [List.mem_cons, List.not_mem_nil, or_false] at hname
  rw [Table.get?_insert, if_neg]
  rcases hname with rfl | rfl | rfl <;> decide

end PartitionHost.Settings
