import Parley.Config
import Parley.Proofs.Text.Digits

/-!
# What an accepted command line configures

Whatever arguments and environment are accepted, the numbers of the configuration are in the ranges
that their options declare (`Config.inRange_of_read`). Every pong wait in its range is one that some
command line gives (`Config.read_pongWait`).

The time between pings is nine tenths of the pong wait. On whole seconds and the nanoseconds that
are left it is worked out with carries from the one to the other (`Settings.pingPeriodFor_parts`),
and the seconds of the product may leave 64 bits: the range that is declared for the pong wait
reaches further than that (`keepAlive_of_read`).
-/

namespace Parley

/-! ### Ranges of values -/

/-- A count is taken from a numeral if it is no smaller than the least one and fits a word. -/
theorem ValueReader.count_eq_ok_iff {least n : Nat} {text : String} :
    count least text = .ok n ↔
      Decimal.count? text.toList = some n ∧ least ≤ n ∧ n < Word.limit64 := by
  unfold count
  cases Decimal.count? text.toList with
  | none => simp
  | some m =>
    dsimp only
    split_ifs with inside
    · simp only [Except.ok.injEq, Option.some.injEq]
      exact ⟨fun same => ⟨same, same ▸ inside⟩, And.left⟩
    · simp only [Option.some.injEq, false_iff]
      rintro ⟨rfl, within⟩
      exact inside within

/-- A port fits sixteen bits. -/
theorem ValueReader.port_lt {n : Nat} {text : String} (read : port text = .ok n) :
    n < Word.limit16 := by
  unfold port at read
  dsimp only at read
  split at read
  · split_ifs at read with small
    cases read
    exact small
  · cases read

/-- What holds of every value that can be read, and of the one in its place, holds of the value of
an option. -/
theorem Given.value_of_read {α : Type} {P : α → Prop} {read : ValueReader α} {default : α}
    (given : Given) (name : String) (readable : ∀ text a, read text = .ok a → P a)
    (absent : P default) : P (given.value name read default) := by
  unfold Given.value
  split
  case h_2 => exact absent
  case h_1 text _ =>
    cases found : read text with
    | error e => exact absent
    | ok a => exact readable text a found

namespace Config

/-- The numbers of a configuration are in the ranges that their options declare. -/
structure InRange (c : Config) : Prop where
  tokenLifetimeSecs : c.tokenLifetimeSecs < Word.limit64
  queueCapacity : c.queueCapacity < Word.limit64
  writeWaitSecs : 1 ≤ c.writeWaitSecs ∧ c.writeWaitSecs < Word.limit64
  pongWaitSecs : 1 ≤ c.pongWaitSecs ∧ c.pongWaitSecs < Word.limit64
  maxMessageSize : c.maxMessageSize < Word.limit64
  rateLimitCount : c.rateLimitCount < Word.limit64
  rateLimitWindowSecs : 1 ≤ c.rateLimitWindowSecs ∧ c.rateLimitWindowSecs < Word.limit64
  port : c.port < Word.limit16

/-- Whatever is given, the numbers of the configuration are in range. -/
theorem inRange_ofGiven (given : Given) : (ofGiven given).InRange := by
  have counted : ∀ (name : String) (least default : Nat),
      least ≤ default ∧ default < Word.limit64 →
      least ≤ given.value name (.count least) default ∧
        given.value name (.count least) default < Word.limit64 := fun name least default absent =>
    given.value_of_read name (P := fun n => least ≤ n ∧ n < Word.limit64)
      (fun _ _ read => (ValueReader.count_eq_ok_iff.mp read).2) absent
  exact {
    tokenLifetimeSecs := (counted _ 0 _ (by decide)).2
    queueCapacity := (counted _ 0 _ (by decide)).2
    writeWaitSecs := counted _ 1 _ (by decide)
    pongWaitSecs := counted _ 1 _ (by decide)
    maxMessageSize := (counted _ 0 _ (by decide)).2
    rateLimitCount := (counted _ 0 _ (by decide)).2
    rateLimitWindowSecs := counted _ 1 _ (by decide)
    port := given.value_of_read _ (fun _ _ => ValueReader.port_lt) (by decide) }

/-- The numbers of every configuration that is accepted are in range. -/
theorem inRange_of_read {environment : String → Option String} {arguments : List String}
    {c : Config} (accepted : read environment arguments = .ok c) : c.InRange := by
  unfold read at accepted
  cases found : CommandLine.read specs environment arguments with
  | error e => rw [found] at accepted; cases accepted
  | ok given =>
    rw [found] at accepted
    cases accepted
    exact inRange_ofGiven given

end Config

/-! ### A command line for every pong wait -/

/-- The digits of a number are a numeral for it. -/
theorem Decimal.count?_digits (n : Nat) : count? (digits n) = some n := by
  have number : number? (digits n) = some n := by
    rw [number?, if_pos, accumulate_digits]
    exact ⟨digits_ne_nil n, List.all_eq_true.mpr fun _ => isDigit_of_mem_digits⟩
  cases written : digits n with
  | nil => exact absurd written (digits_ne_nil n)
  | cons c rest =>
    have digit : isDigit c := isDigit_of_mem_digits (n := n) (written ▸ List.mem_cons_self)
    have unsigned : c ≠ '+' := by rintro rfl; exact absurd digit (by decide)
    unfold count?
    split
    case h_1 same => exact absurd (List.cons.inj same).1 unsigned
    case h_2 => rwa [← written]

namespace CommandLine

/-- Without variables nothing is added to what is given. -/
theorem foldlM_readVariable_none (specs : List OptionSpec) (c : CommandLine) :
    specs.foldlM (readVariable fun _ => none) c = .ok c := by
  induction specs with
  | nil => rfl
  | cons spec rest ih =>
    have unset : spec.envName.bind (fun _ => (none : Option String)) = none := by
      cases spec.envName <;> rfl
    rw [List.foldlM_cons, readVariable, unset]
    simp only [ite_self]
    exact ih

/-- The first option that is taken is all that is given. -/
theorem accept_of_check {spec : OptionSpec} {value : String} (single : spec.many = false)
    (checked : spec.check value = .ok ()) :
    accept {} spec value = .ok { given := [(spec.long, [value])] } := by
  have all : [value].forM spec.check = .ok () := by
    change (spec.check value >>= fun _ => .ok ()) = _
    rw [checked]
    rfl
  have values : (if spec.many then splitCommas value else [value]) = [value] := by
    rw [single]
    rfl
  unfold accept
  rw [values]
  dsimp only
  rw [all, if_neg (by rintro ⟨-, again⟩; cases again)]
  rfl

/-- What is given, from what the arguments give, the value awaited at their end and the
variables. -/
theorem read_of_collected {specs : List OptionSpec} {environment : String → Option String}
    {arguments : List String} {collected resolved complete : CommandLine}
    (first : arguments.foldlM (readArgument specs) {} = .ok collected)
    (second : collected.resolve = .ok resolved)
    (third : specs.foldlM (readVariable environment) resolved = .ok complete) :
    read specs environment arguments = .ok complete.given := by
  unfold read
  simp only [first, second, third, bind, Except.bind, pure, Except.pure]

/-- An argument that begins with a digit is no option. -/
theorem readArgument_digits (specs : List OptionSpec) {c : CommandLine} (running : c.ended = false)
    (n : Nat) :
    readArgument specs c (String.ofList (Decimal.digits n)) = c.readPlain (Decimal.digits n) := by
  have noHyphen : ∀ rest, Decimal.digits n ≠ '-' :: rest := by
    intro rest written
    have digit := Decimal.isDigit_of_mem_digits (n := n) (written ▸ List.mem_cons_self)
    exact absurd digit (by decide)
  unfold readArgument
  rw [running, String.toList_ofList, if_neg Bool.false_ne_true]
  split
  case h_1 written => exact absurd written (noHyphen _)
  case h_2 written => exact absurd written (noHyphen _)
  case h_3 written => exact absurd written (noHyphen _)
  case h_4 => rfl

end CommandLine

namespace Config

/-- The option for the pong wait. -/
def pongWaitSpec : OptionSpec where
  long := "ws-pong-wait-secs"
  envName := some "WS_PONG_WAIT_SECS"
  check := (ValueReader.count 1).check

/-- Every pong wait from one second to the end of 64 bits can be configured. -/
theorem read_pongWait {n : Nat} (positive : 1 ≤ n) (small : n < Word.limit64) :
    read (fun _ => none) ["--ws-pong-wait-secs", String.ofList (Decimal.digits n)] =
      .ok { pongWaitSecs := n } := by
  have counted : ValueReader.count 1 (String.ofList (Decimal.digits n)) = .ok n := by
    rw [ValueReader.count_eq_ok_iff, String.toList_ofList, Decimal.count?_digits]
    exact ⟨rfl, positive, small⟩
  have name : CommandLine.readArgument specs {} "--ws-pong-wait-secs" =
      .ok { awaited := some ⟨pongWaitSpec, none⟩ } := rfl
  have value : CommandLine.readArgument specs { awaited := some ⟨pongWaitSpec, none⟩ }
      (String.ofList (Decimal.digits n)) =
        .ok { awaited := some ⟨pongWaitSpec, some (String.ofList (Decimal.digits n))⟩ } :=
    CommandLine.readArgument_digits specs rfl n
  have taken : CommandLine.accept {} pongWaitSpec (String.ofList (Decimal.digits n)) =
      .ok { given := [("ws-pong-wait-secs", [String.ofList (Decimal.digits n)])] } := by
    apply CommandLine.accept_of_check rfl
    rw [pongWaitSpec]
    dsimp only
    rw [ValueReader.check, counted]
    rfl
  have collected : ["--ws-pong-wait-secs", String.ofList (Decimal.digits n)].foldlM
      (CommandLine.readArgument specs) {} =
        .ok { awaited := some ⟨pongWaitSpec, some (String.ofList (Decimal.digits n))⟩ } := by
    simp only [List.foldlM_cons, List.foldlM_nil, name, bind, Except.bind, value]
    rfl
  have given : CommandLine.read specs (fun _ => none) _ = .ok _ :=
    CommandLine.read_of_collected collected taken (CommandLine.foldlM_readVariable_none specs _)
  have waited : Given.value [("ws-pong-wait-secs", [String.ofList (Decimal.digits n)])]
      "ws-pong-wait-secs" (.count 1) 60 = n := by
    change (ValueReader.count 1 _).toOption.getD 60 = n
    rw [counted]
    rfl
  have built : ofGiven [("ws-pong-wait-secs", [String.ofList (Decimal.digits n)])] =
      { pongWaitSecs := Given.value [("ws-pong-wait-secs", [String.ofList (Decimal.digits n)])]
          "ws-pong-wait-secs" (.count 1) 60 } := rfl
  rw [read, given]
  exact congrArg Except.ok (built.trans (by rw [waited]))

end Config

/-! ### Nine tenths of a length of time -/

namespace Duration

/-- A multiple of a length of time, worked out on its parts: the nanoseconds carry into the seconds,
and there is no multiple if the seconds leave 64 bits. -/
def timesParts (k : Nat) : Nat × Nat → Option (Nat × Nat)
  | (secs, nanos) =>
    let carried := secs * k + nanos * k / 1000000000
    if carried < Word.limit64 then some (carried, nanos * k % 1000000000) else none

/-- A fraction of a length of time, worked out on its parts: what is left of the seconds goes to the
nanoseconds. -/
def dividedParts (k : Nat) : Nat × Nat → Nat × Nat
  | (secs, nanos) => (secs / k, nanos / k + (secs % k * 1000000000 + nanos % k) / k)

end Duration

namespace Settings

/-- The ping period is nine tenths of the pong wait if nine times the pong wait is a duration. -/
theorem pingPeriodFor_eq_some_iff {pongWait period : Duration} :
    pingPeriodFor pongWait = some period ↔
      fits (pongWait * 9) = true ∧ pongWait * 9 / 10 = period := by
  unfold pingPeriodFor
  split_ifs with inside
  · simp [inside]
  · simp [inside]

/-- The time between pings, worked out on seconds and nanoseconds. -/
theorem pingPeriodFor_parts (pongWait : Duration) :
    (pingPeriodFor pongWait).map Duration.parts =
      (Duration.timesParts 9 pongWait.parts).map (Duration.dividedParts 10) := by
  have product : ∀ n : Nat,
      n * 9 / 1000000000 = n / 1000000000 * 9 + n % 1000000000 * 9 / 1000000000 ∧
      n * 9 % 1000000000 = n % 1000000000 * 9 % 1000000000 := by
    omega
  have quotient : ∀ n secs nanos : Nat, n = secs * 1000000000 + nanos → nanos < 1000000000 →
      n / 10 / 1000000000 = secs / 10 ∧
      n / 10 % 1000000000 = nanos / 10 + (secs % 10 * 1000000000 + nanos % 10) / 10 := by
    omega
  obtain ⟨carried, rest⟩ := product pongWait
  obtain ⟨seconds, nanoseconds⟩ := quotient (pongWait * 9) _ _
    (Nat.div_add_mod' (pongWait * 9) 1000000000).symm (Nat.mod_lt _ (by decide))
  unfold Duration.timesParts Duration.parts
  dsimp only
  rw [← carried, ← rest]
  by_cases inside : pongWait * 9 / 1000000000 < Word.limit64
  · have period : pingPeriodFor pongWait = some (pongWait * 9 / 10) :=
      pingPeriodFor_eq_some_iff.mpr ⟨decide_eq_true inside, rfl⟩
    rw [period, if_pos inside, Option.map_some, Option.map_some, Duration.dividedParts, seconds,
      nanoseconds]
  · have absent : pingPeriodFor pongWait = none :=
      if_neg (by rw [fits, decide_eq_true_eq]; exact inside)
    rw [absent, if_neg inside]
    rfl

/-- As many seconds are a duration as a word can count. -/
theorem fits_seconds_iff {n : Nat} : fits (.seconds n) = true ↔ n < Word.limit64 := by
  rw [fits, decide_eq_true_eq, Duration.parts, Duration.seconds,
    Nat.mul_div_cancel _ (by decide)]

end Settings

/-- **Keep-alive of an accepted configuration.** Whatever arguments and environment are accepted:

* the pong wait is at least a second and fits 64 bits, and so does every other length of time;
* there are settings unless nine times the seconds of the pong wait leave 64 bits;
* the time between pings is what comes of working out nine tenths on seconds and nanoseconds;
* if there are settings, it is nine tenths of the pong wait in nanoseconds, rounded down, more than
  nothing and less than the pong wait. -/
theorem keepAlive_of_read {environment : String → Option String} {arguments : List String}
    {c : Config} (accepted : Config.read environment arguments = .ok c) :
    (1 ≤ c.pongWaitSecs ∧ c.pongWaitSecs < Word.limit64 ∧ Settings.fits c.pongWait ∧
      Settings.fits c.writeWait ∧ Settings.fits c.rateLimitWindow) ∧
    (c.settings? = none ↔ Word.limit64 ≤ 9 * c.pongWaitSecs) ∧
    c.settings?.map (·.pingPeriod.parts) =
      (Duration.timesParts 9 c.pongWait.parts).map (Duration.dividedParts 10) ∧
    ∀ s, c.settings? = some s →
      s.pongWait = .seconds c.pongWaitSecs ∧ s.pingPeriod = 9 * s.pongWait / 10 ∧
      0 < s.pingPeriod ∧ s.pingPeriod < s.pongWait := by
  have range := Config.inRange_of_read accepted
  obtain ⟨positive, small⟩ := range.pongWaitSecs
  have inNanoseconds : ∀ n : Nat, 1 ≤ n →
      n * 1000000000 * 9 = 9 * n * 1000000000 ∧
      n * 1000000000 * 9 / 10 = 9 * (n * 1000000000) / 10 ∧
      0 < n * 1000000000 * 9 / 10 ∧ n * 1000000000 * 9 / 10 < n * 1000000000 := by
    omega
  obtain ⟨product, tenths, lasting, less⟩ := inNanoseconds c.pongWaitSecs positive
  have ninefold : Settings.fits (c.pongWait * 9) = true ↔ 9 * c.pongWaitSecs < Word.limit64 := by
    have same : c.pongWait * 9 = .seconds (9 * c.pongWaitSecs) := product
    rw [same, Settings.fits_seconds_iff]
  refine ⟨⟨positive, small, Settings.fits_seconds_iff.mpr small,
    Settings.fits_seconds_iff.mpr range.writeWaitSecs.2,
    Settings.fits_seconds_iff.mpr range.rateLimitWindowSecs.2⟩, ?none, ?parts, fun s given => ?some⟩
  case none =>
    rw [Config.settings?, Option.map_eq_none_iff, Config.pingPeriod?, Settings.pingPeriodFor,
      ite_eq_right_iff, ← Nat.not_lt, ← ninefold]
    simp
  case parts =>
    rw [← Settings.pingPeriodFor_parts, Config.settings?, Option.map_map, Config.pingPeriod?]
    rfl
  case some =>
    obtain ⟨period, found, rfl⟩ := Option.map_eq_some_iff.mp given
    obtain ⟨-, rfl⟩ := Settings.pingPeriodFor_eq_some_iff.mp found
    exact ⟨rfl, tenths, lasting, less⟩

/-- The longest pong wait that there are settings for. -/
theorem keepAlive_of_read_longest :
    let c : Config := { pongWaitSecs := 2049638230412172401 }
    Config.read (fun _ => none) ["--ws-pong-wait-secs", "2049638230412172401"] = .ok c ∧
      c.settings?.map (·.pingPeriod.parts) = some (1844674407370955160, 900000000) := by
  have accepted : Config.read (fun _ => none) ["--ws-pong-wait-secs", "2049638230412172401"] =
      .ok { pongWaitSecs := 2049638230412172401 } := by decide +kernel
  exact ⟨accepted, (keepAlive_of_read accepted).2.2.1.trans (by decide)⟩

/-- A second more is accepted as well, and leaves no settings: nine times as much does not fit. -/
theorem no_settings_for_long_pongWait :
    ∃ c, Config.read (fun _ => none) ["--ws-pong-wait-secs", "2049638230412172402"] = .ok c ∧
      c.settings? = none :=
  ⟨_, Config.read_pongWait (n := 2049638230412172402) (by decide) (by decide), by decide⟩

end Parley
