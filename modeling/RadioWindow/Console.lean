import Mathlib.Data.Nat.Digits
import RadioWindow.ConfigSurface

/-!
# The console line of `window`

`registerTimeWindowCommands` (command_time_window.cpp) registers `windowCmd`, whose callback
splits the line it is handed with `strtok` on spaces, keeps at most eight tokens, and calls
`timeWindowCmd` on them. The loop hands over the first eight words of the line, a word being a
maximal run of characters other than a space, so a line of words joined by single spaces reads
back as those words. `%02d` and `%d:%d` are inverse on times of day, and `%d` and `atoi` on
counts below `2^31`, so the status `window status` prints of a configuration in
`QUEUE_PACKETS` mode, typed back as five commands, rebuilds it from whatever configuration the
node held.
-/

namespace RadioWindow

/-! ## The callback of `windowCmd` -/

/-- `strtok(s, " ")`: the spaces in front are skipped, the token runs to the next space, and
the next call resumes after that space; `none` when only spaces are left. -/
def strtok (s : List Char) : Option (List Char × List Char) :=
  match s.dropWhile (· == ' ') with
  | [] => none
  | s => some (s.takeWhile (· != ' '), (s.dropWhile (· != ' ')).drop 1)

/-- The `while (token && argc < 8)` loop, with `room` slots of `argv` still free. -/
def tokenLoop : Nat → List Char → List String
  | 0, _ => []
  | room + 1, s =>
    match strtok s with
    | none => []
    | some (token, rest) => String.mk token :: tokenLoop room rest

/-- The `argv` the callback builds from `arg_string`: `char *argv[8]`, filled by `strtok`. -/
def splitArgs (argString : String) : List String := tokenLoop 8 argString.toList

def windowCmd (config : Config) (argString : String) : Config × List String :=
  timeWindowCmd config (splitArgs argString)

/-! ## The split is the line's words -/

/-- The words of a line: its maximal runs of characters other than a space. -/
def words (s : List Char) : List (List Char) := (s.splitOn ' ').filter fun w => !w.isEmpty

theorem words_nil : words [] = [] := rfl

theorem words_cons_space (s : List Char) : words (' ' :: s) = words s := by
  simp [words, List.splitOn]

theorem words_dropWhile (s : List Char) : words (s.dropWhile (· == ' ')) = words s := by
  induction s with
  | nil => rfl
  | cons c s ih =>
    by_cases hc : c = ' '
    · subst hc
      rw [List.dropWhile_cons_of_pos (by decide), ih, words_cons_space]
    · rw [List.dropWhile_cons_of_neg (by simpa using hc)]

theorem words_of_head (c : Char) (s : List Char) (hc : c ≠ ' ') :
    words (c :: s) = (c :: s).takeWhile (· != ' ') ::
      words (((c :: s).dropWhile (· != ' ')).drop 1) := by
  have hsplit := List.takeWhile_append_dropWhile (· != ' ') (c :: s)
  have ht : ∀ x ∈ (c :: s).takeWhile (· != ' '), ¬(x == ' ') = true := fun x hx => by
    simpa using List.mem_takeWhile_imp hx
  have hne : !((c :: s).takeWhile (· != ' ')).isEmpty := by
    simp [List.takeWhile_cons, hc]
  unfold words
  cases hu : (c :: s).dropWhile (· != ' ') with
  | nil =>
    rw [hu, List.append_nil] at hsplit
    conv_lhs => rw [← hsplit]
    rw [List.splitOn, List.splitOnP_eq_single _ _ ht]
    simp [hne]
  | cons v u =>
    have hv : v = ' ' := by
      simpa [hu] using List.head_dropWhile_not (· != ' ') (c :: s) (by simp [hu])
    rw [hu, hv] at hsplit
    conv_lhs => rw [← hsplit]
    rw [List.splitOn, List.splitOnP_first _ _ ht ' ' (by decide)]
    simp only [List.filter_cons, hne, if_true, hv]
    rfl

theorem words_strtok (s : List Char) :
    words s = match strtok s with
      | none => []
      | some (token, rest) => token :: words rest := by
  rw [← words_dropWhile, strtok]
  cases h : s.dropWhile (· == ' ') with
  | nil => rfl
  | cons c r =>
    have hc : c ≠ ' ' := by
      simpa [h] using List.head_dropWhile_not (· == ' ') s (by simp [h])
    exact words_of_head c r hc

theorem tokenLoop_eq (room : Nat) (s : List Char) :
    tokenLoop room s = ((words s).take room).map String.mk := by
  induction room generalizing s with
  | zero => rfl
  | succ room ih =>
    rw [tokenLoop, words_strtok]
    cases strtok s with
    | none => rfl
    | some tr => simp [ih]

theorem words_intercalate (ws : List (List Char)) (hw : ∀ w ∈ ws, w ≠ [] ∧ ' ' ∉ w) :
    words ([' '].intercalate ws) = ws := by
  cases ws with
  | nil => rfl
  | cons w ws =>
    rw [words, List.splitOn_intercalate _ ' ' (fun w h => (hw w h).2) (List.cons_ne_nil w ws),
      List.filter_eq_self]
    intro w h
    simpa [List.isEmpty_iff] using (hw w h).1

theorem intercalate_go_data (acc s : String) (ws : List String) :
    (String.intercalate.go acc s ws).data =
      acc.data ++ (ws.map fun w => s.data ++ w.data).flatten := by
  induction ws generalizing acc with
  | nil => simp [String.intercalate.go]
  | cons w ws ih => simp [String.intercalate.go, ih]

theorem intercalate_cons_eq {α : Type} (sep x : List α) (xs : List (List α)) :
    sep.intercalate (x :: xs) = x ++ (xs.map fun w => sep ++ w).flatten := by
  induction xs generalizing x with
  | nil => simp [List.intercalate]
  | cons y ys ih => simp [List.intercalate, List.intersperse_cons₂] at ih ⊢; simp [ih]

theorem data_intercalate (s : String) (ws : List String) :
    (s.intercalate ws).data = s.data.intercalate (ws.map String.data) := by
  cases ws with
  | nil => rfl
  | cons w ws =>
    rw [String.intercalate, intercalate_go_data, List.map_cons, intercalate_cons_eq,
      List.map_map]
    rfl

theorem splitArgs_intercalate (ws : List String) (hw : ∀ w ∈ ws, w ≠ "" ∧ ' ' ∉ w.toList) :
    splitArgs (" ".intercalate ws) = ws.take 8 := by
  have hw' : ∀ w ∈ ws.map String.data, w ≠ [] ∧ ' ' ∉ w := by
    simp only [List.mem_map]
    rintro _ ⟨w, hw1, rfl⟩
    exact ⟨fun h => (hw w hw1).1 (String.ext h), (hw w hw1).2⟩
  rw [splitArgs, tokenLoop_eq, String.toList, data_intercalate, words_intercalate _ hw',
    ← List.map_take, List.map_map]
  exact (List.map_id' _).trans rfl

/-- The argument vector is the line's first eight words; and a line of words without spaces
joined by single spaces gives those words back, the first eight of them. -/
theorem splitArgs_words :
    (∀ line : String, splitArgs line = ((words line.toList).take 8).map String.mk) ∧
    ∀ ws : List String, (∀ w ∈ ws, w ≠ "" ∧ ' ' ∉ w.toList) →
      splitArgs (" ".intercalate ws) = ws.take 8 :=
  ⟨fun _ => tokenLoop_eq 8 _, splitArgs_intercalate⟩

/-- `window set 9:05 17:30`, typed with single spaces, splits into its four words. -/
theorem splitArgs_words_set :
    (∀ w ∈ ["window", "set", "9:05", "17:30"], w ≠ "" ∧ ' ' ∉ w.toList) ∧
    splitArgs (" ".intercalate ["window", "set", "9:05", "17:30"]) =
      ["window", "set", "9:05", "17:30"] :=
  ⟨by decide, splitArgs_words.2 _ (by decide)⟩

/-! ## `%02d` and `%d:%d` on a time of day -/

theorem digitChar_facts : ∀ d < 10,
    isCSpace (Nat.digitChar d) = false ∧ (Nat.digitChar d).isDigit = true ∧
      (Nat.digitChar d).toNat - 48 = d ∧ Nat.digitChar d ≠ '-' ∧ Nat.digitChar d ≠ '+' ∧
      Nat.digitChar d ≠ ' ' := by
  decide

theorem toDigits_lt_hundred (n : Nat) (hn : n < 100) :
    Nat.toDigits 10 n =
      if n < 10 then [Nat.digitChar n] else [Nat.digitChar (n / 10), Nat.digitChar (n % 10)] := by
  by_cases h : n < 10
  · rw [if_pos h, Nat.toDigits, Nat.toDigitsCore, if_pos (Nat.div_eq_of_lt h), Nat.mod_eq_of_lt h]
  · obtain ⟨m, rfl⟩ : ∃ m, n = m + 1 := ⟨n - 1, by omega⟩
    rw [if_neg h, Nat.toDigits, Nat.toDigitsCore, if_neg (by omega), Nat.toDigitsCore,
      if_pos (by omega), Nat.mod_eq_of_lt (by omega)]

theorem fmtD_two (n : Nat) (hn : n < 100) :
    (fmtD 2 n).data = [Nat.digitChar (n / 10), Nat.digitChar (n % 10)] := by
  have hd := toDigits_lt_hundred n hn
  have hs : (toString n).data = Nat.toDigits 10 n := rfl
  have hl : (toString n).length = (Nat.toDigits 10 n).length := rfl
  have hneg : ¬(n : Int) < 0 := by omega
  simp only [fmtD, if_neg hneg, Int.natAbs_ofNat, String.data_append, hs, hl, hd]
  by_cases h : n < 10
  · simp [h, Nat.div_eq_of_lt h, Nat.mod_eq_of_lt h]
    rfl
  · simp [h]

theorem scanDigits_digit (d : Nat) (hd : d < 10) (cs : List Char) (acc n : Nat) :
    scanDigits (Nat.digitChar d :: cs) acc n = scanDigits cs (acc * 10 + d) (n + 1) := by
  rw [scanDigits, if_pos (digitChar_facts d hd).2.1, (digitChar_facts d hd).2.2.1]

theorem scanDigits_stop (rest : List Char) (hrest : ∀ c ∈ rest.head?, c.isDigit = false)
    (acc n : Nat) : scanDigits rest acc n = (acc, n, rest) := by
  cases rest with
  | nil => rfl
  | cons c cs => rw [scanDigits, if_neg (by simpa using hrest c rfl)]

theorem strtol_unsigned (c : Char) (l : List Char) (hsp : isCSpace c = false) (hminus : c ≠ '-')
    (hplus : c ≠ '+') :
    strtol (c :: l) = (let (v, n, rest) := scanDigits (c :: l) 0 0
      if n = 0 then none else some (max longMin (min longMax (v : Int)), rest)) := by
  rw [strtol, List.dropWhile_cons_of_neg (by simp [hsp])]
  split
  next heq =>
    split at heq
    · exact absurd (List.cons.inj ‹c :: l = '-' :: _›).1 hminus
    · exact absurd (List.cons.inj ‹c :: l = '+' :: _›).1 hplus
    · cases heq; rfl

theorem strtol_fmtD (n : Nat) (hn : n < 100) (rest : List Char)
    (hrest : ∀ c ∈ rest.head?, c.isDigit = false) :
    strtol ((fmtD 2 n).data ++ rest) = some ((n : Int), rest) := by
  have ha := digitChar_facts (n / 10) (by omega)
  have hval : (0 * 10 + n / 10) * 10 + n % 10 = n := by omega
  have hscan : scanDigits rest ((0 * 10 + n / 10) * 10 + n % 10) (0 + 1 + 1) = (n, 2, rest) := by
    rw [hval, scanDigits_stop rest hrest]
  rw [fmtD_two n hn, List.cons_append, List.cons_append, List.nil_append,
    strtol_unsigned _ _ ha.1 ha.2.2.2.1 ha.2.2.2.2.1, scanDigits_digit _ (by omega),
    scanDigits_digit _ (by omega), hscan]
  have hsat : max longMin (min longMax (n : Int)) = n := by
    simp only [longMin, longMax]; omega
  dsimp only
  rw [if_neg (by decide), hsat]

theorem parseTime_fmtD (h m : Nat) (hh : h ≤ 23) (hm : m ≤ 59) :
    parseTime (fmtD 2 h ++ ":" ++ fmtD 2 m) = some (h, m) := by
  have h1 : strtol (fmtD 2 h ++ ":" ++ fmtD 2 m).toList =
      some ((h : Int), ':' :: (fmtD 2 m).data) := by
    simpa using strtol_fmtD h (by omega) (':' :: (fmtD 2 m).data) (by simp)
  have h2 : strtol (fmtD 2 m).data = some ((m : Int), []) := by
    simpa using strtol_fmtD m (by omega) [] (by simp)
  rw [parseTime, scanTime, h1]
  simp only [h2, Option.map_some']
  rw [if_neg (by omega)]
  simp

/-! ## `%d` and `atoi` on a count -/

/-- `Nat.toDigitsCore` with enough fuel puts a run of decimal digits in front of what it is
given, and `scanDigits` reads that run back as the number. -/
theorem toDigitsCore_digits : ∀ (f n : Nat) (ds : List Char), n < f →
    ∃ l, Nat.toDigitsCore 10 f n ds = l ++ ds ∧ l ≠ [] ∧
      (∀ c ∈ l, ∃ d < 10, c = Nat.digitChar d) ∧
      ∀ rest acc k,
        scanDigits (l ++ rest) acc k = scanDigits rest (acc * 10 ^ l.length + n) (k + l.length)
  | 0, _, _, hn => absurd hn (Nat.not_lt_zero _)
  | f + 1, n, ds, hn => by
    rw [Nat.toDigitsCore]
    by_cases h0 : n / 10 = 0
    · rw [if_pos h0]
      refine ⟨[Nat.digitChar (n % 10)], rfl, List.cons_ne_nil _ _, ?_, fun rest acc k => ?_⟩
      · simpa using ⟨n % 10, Nat.mod_lt _ (by omega), rfl⟩
      · rw [List.singleton_append, scanDigits_digit _ (Nat.mod_lt _ (by omega)),
          List.length_singleton, Nat.pow_one, Nat.mod_eq_of_lt (by omega)]
    · rw [if_neg h0]
      obtain ⟨l, h1, h2, h3, h4⟩ :=
        toDigitsCore_digits f (n / 10) (Nat.digitChar (n % 10) :: ds) (by omega)
      refine ⟨l ++ [Nat.digitChar (n % 10)], by rw [h1, List.append_assoc, List.singleton_append],
        by simp, ?_, fun rest acc k => ?_⟩
      · intro c hc
        rcases List.mem_append.1 hc with hc | hc
        · exact h3 c hc
        · exact ⟨n % 10, Nat.mod_lt _ (by omega), List.mem_singleton.1 hc⟩
      · have hv : (acc * 10 ^ l.length + n / 10) * 10 + n % 10 =
            acc * 10 ^ (l.length + 1) + n := by
          rw [Nat.pow_succ, ← Nat.mul_assoc, Nat.add_mul]; omega
        rw [List.append_assoc, List.singleton_append, h4,
          scanDigits_digit _ (Nat.mod_lt _ (by omega)), hv, List.length_append,
          List.length_singleton, Nat.add_assoc]

theorem toString_data (n : Nat) : ∃ l, (toString n).data = l ∧ l ≠ [] ∧
    (∀ c ∈ l, ∃ d < 10, c = Nat.digitChar d) ∧
    ∀ rest acc k,
      scanDigits (l ++ rest) acc k = scanDigits rest (acc * 10 ^ l.length + n) (k + l.length) := by
  obtain ⟨l, hl, h⟩ := toDigitsCore_digits (n + 1) n [] (Nat.lt_succ_self n)
  exact ⟨l, by rw [show (toString n).data = Nat.toDigits 10 n from rfl, Nat.toDigits, hl,
    List.append_nil], h⟩

theorem strtol_toString (n : Nat) (hn : n ≤ 2147483647) (rest : List Char)
    (hrest : ∀ c ∈ rest.head?, c.isDigit = false) :
    strtol ((toString n).data ++ rest) = some ((n : Int), rest) := by
  obtain ⟨l, hs, hne, hdig, hscan⟩ := toString_data n
  obtain ⟨c, cs, rfl⟩ := List.exists_cons_of_ne_nil hne
  obtain ⟨d, hd, rfl⟩ := hdig _ (List.mem_cons_self _ _)
  have ha := digitChar_facts d hd
  have hsat : max longMin (min longMax (n : Int)) = n := by
    simp only [longMin, longMax]; omega
  rw [hs, List.cons_append, strtol_unsigned _ _ ha.1 ha.2.2.2.1 ha.2.2.2.2.1, ← List.cons_append,
    hscan, scanDigits_stop rest hrest]
  simp [hsat]

theorem atoi_toString (n : Nat) (hn : n ≤ 2147483647) : atoi (toString n) = n := by
  have h := strtol_toString n hn [] (by simp)
  rw [List.append_nil] at h
  rw [atoi, String.toList, h]
  rfl

theorem toString_word (n : Nat) : toString n ≠ "" ∧ ' ' ∉ (toString n).toList := by
  obtain ⟨l, hs, hne, hdig, -⟩ := toString_data n
  refine ⟨fun h => hne (hs ▸ congrArg String.data h), fun h => ?_⟩
  rw [String.toList, hs] at h
  obtain ⟨d, hd, he⟩ := hdig ' ' h
  exact (digitChar_facts d hd).2.2.2.2.2 he.symm

theorem fmtD_zero (n : Nat) : fmtD 0 n = toString n := by
  have h : ¬(n : Int) < 0 := by omega
  simp [fmtD, h]

/-! ## `window set` of a printed window -/

theorem asInt_of_lt (n : Nat) (hn : n < 2147483648) : asInt n = n := by
  rw [asInt, word_of_lt (by simp only [wordSize]; omega), if_pos hn]

theorem fmtTime_data (h m : Nat) (hh : h < 100) (hm : m < 100) :
    (fmtD 2 h ++ ":" ++ fmtD 2 m).data = [Nat.digitChar (h / 10), Nat.digitChar (h % 10), ':',
      Nat.digitChar (m / 10), Nat.digitChar (m % 10)] := by
  rw [String.data_append, String.data_append, fmtD_two h hh, fmtD_two m hm]
  rfl

theorem fmtTime_word (h m : Nat) (hh : h ≤ 23) (hm : m ≤ 59) :
    fmtD 2 h ++ ":" ++ fmtD 2 m ≠ "" ∧ ' ' ∉ (fmtD 2 h ++ ":" ++ fmtD 2 m).toList := by
  have hdata := fmtTime_data h m (by omega) (by omega)
  refine ⟨fun he => List.cons_ne_nil _ _ (hdata.symm.trans (congrArg String.data he)), ?_⟩
  have hsp : ∀ d < 10, ' ' ≠ Nat.digitChar d := fun d hd => (digitChar_facts d hd).2.2.2.2.2.symm
  rw [String.toList, hdata]
  simp [hsp _ (show h / 10 < 10 by omega), hsp _ (show h % 10 < 10 by omega),
    hsp _ (show m / 10 < 10 by omega), hsp _ (show m % 10 < 10 by omega)]

theorem timeWindowCmd_set (config : Config) (a start stop : String) :
    timeWindowCmd config [a, "set", start, stop] = cmdSet config [a, "set", start, stop] := by
  simp [timeWindowCmd]

theorem windowCmd_words (config : Config) (ws : List String)
    (hw : ∀ w ∈ ws, w ≠ "" ∧ ' ' ∉ w.toList) (hl : ws.length ≤ 8) :
    windowCmd config (" ".intercalate ws) = timeWindowCmd config ws := by
  rw [windowCmd, splitArgs_intercalate ws hw, List.take_of_length_le hl]

theorem windowCmd_arg (config : Config) (cmd arg : String) (hcmd : cmd ≠ "" ∧ ' ' ∉ cmd.toList)
    (harg : arg ≠ "" ∧ ' ' ∉ arg.toList) :
    windowCmd config (" ".intercalate ["window", cmd, arg]) =
      timeWindowCmd config ["window", cmd, arg] :=
  windowCmd_words config _ (by
    simp only [List.mem_cons, List.not_mem_nil, or_false, forall_eq_or_imp, forall_eq]
    exact ⟨by decide, hcmd, harg⟩) (by simp)

theorem windowCmd_set_time (config : Config) (h m h' m' : Nat) (hh : h ≤ 23) (hm : m ≤ 59)
    (hh' : h' ≤ 23) (hm' : m' ≤ 59) :
    windowCmd config
        ("window set " ++ (fmtD 2 h ++ ":" ++ fmtD 2 m) ++ " " ++ (fmtD 2 h' ++ ":" ++ fmtD 2 m')) =
      ({ config with
          hasLora := true
          lora.windowStartHour := h
          lora.windowStartMinute := m
          lora.windowEndHour := h'
          lora.windowEndMinute := m' },
        ["Time window set to " ++ (fmtD 2 h ++ ":" ++ fmtD 2 m) ++ " - " ++
          (fmtD 2 h' ++ ":" ++ fmtD 2 m')]) := by
  have hps := parseTime_fmtD h m hh hm
  have hpe := parseTime_fmtD h' m' hh' hm'
  have hs := fmtTime_word h m hh hm
  have hf := fmtTime_word h' m' hh' hm'
  generalize hS : fmtD 2 h ++ ":" ++ fmtD 2 m = start at hps hs ⊢
  generalize hE : fmtD 2 h' ++ ":" ++ fmtD 2 m' = stop at hpe hf ⊢
  rw [show "window set " ++ start ++ " " ++ stop = " ".intercalate ["window", "set", start, stop]
      from rfl, windowCmd_words _ _ (by
        simp only [List.mem_cons, List.not_mem_nil, or_false, forall_eq_or_imp, forall_eq]
        exact ⟨by decide, by decide, hs, hf⟩) (by simp),
    timeWindowCmd_set, cmdSet, if_neg (by simp)]
  simp only [List.getD_cons_succ, List.getD_cons_zero, hps, hpe]
  simp [← hS, ← hE, String.append_assoc]

/-! ## `window status`, replayed on the console -/

/-- For a configuration in `QUEUE_PACKETS` mode whose fields are in the ranges the console
accepts, `window status` prints its window, its mode, its queue size and its expiry; typed back
as `window enable`, `window set`, `window mode queue`, `window queue` and `window expire`, these
rebuild it, whatever configuration the node held before. -/
theorem status_replay_restores_config (config before : Config) (hlora : config.hasLora = true)
    (hen : config.lora.timeWindowEnabled = true) (ht : config.lora.TimesValid)
    (hmode : config.lora.windowMode = queuePackets)
    (hq : 1 ≤ config.lora.windowQueueSize ∧ config.lora.windowQueueSize ≤ 100)
    (he : 1 ≤ config.lora.windowPacketExpireSecs ∧
      config.lora.windowPacketExpireSecs ≤ 2147483647) :
    let start := fmtD 2 (asInt config.lora.windowStartHour) ++ ":" ++
      fmtD 2 (asInt config.lora.windowStartMinute)
    let stop := fmtD 2 (asInt config.lora.windowEndHour) ++ ":" ++
      fmtD 2 (asInt config.lora.windowEndMinute)
    let size := fmtD 0 (asInt config.lora.windowQueueSize)
    let secs := fmtD 0 (asInt config.lora.windowPacketExpireSecs)
    printTimeWindowStatus config =
      ["Time window: Enabled", "Window: " ++ start ++ " - " ++ stop, "Mode: Queue packets",
        "Queue size: " ++ size ++ " packets", "Packet expiry: " ++ secs ++ " seconds"] ∧
    ["window enable", "window set " ++ start ++ " " ++ stop, "window mode queue",
        "window queue " ++ size, "window expire " ++ secs].foldl
      (fun c line => (windowCmd c line).1) before = config := by
  obtain ⟨h1, h2, h3, h4⟩ := ht
  have a1 := asInt_of_lt config.lora.windowStartHour (by omega)
  have a2 := asInt_of_lt config.lora.windowStartMinute (by omega)
  have a3 := asInt_of_lt config.lora.windowEndHour (by omega)
  have a4 := asInt_of_lt config.lora.windowEndMinute (by omega)
  have aq := asInt_of_lt config.lora.windowQueueSize (by omega)
  have ae := asInt_of_lt config.lora.windowPacketExpireSecs (by omega)
  dsimp only
  refine ⟨by simp [printTimeWindowStatus, hlora, hen, hmode, a1, a2, a3, a4, aq, ae,
    queuePackets, dropPackets, String.append_assoc], ?_⟩
  rw [a1, a2, a3, a4, aq, ae, fmtD_zero, fmtD_zero]
  generalize hQ : config.lora.windowQueueSize = q at hq ⊢
  generalize hX : config.lora.windowPacketExpireSecs = x at he ⊢
  simp only [List.foldl]
  rw [windowCmd_set_time _ _ _ _ _ h1 h2 h3 h4,
    show "window enable" = " ".intercalate ["window", "enable"] from rfl,
    show "window mode queue" = " ".intercalate ["window", "mode", "queue"] from rfl,
    show "window queue " ++ toString q = " ".intercalate ["window", "queue", toString q] from rfl,
    show "window expire " ++ toString x = " ".intercalate ["window", "expire", toString x]
      from rfl,
    windowCmd_words _ ["window", "enable"] (by decide) (by decide),
    windowCmd_arg _ "mode" "queue" (by decide) (by decide),
    windowCmd_arg _ "queue" _ (by decide) (toString_word q),
    windowCmd_arg _ "expire" _ (by decide) (toString_word x)]
  have hq0 : ¬(q = 0 ∨ 100 < q) := by omega
  have hx0 : x ≠ 0 := by omega
  simp [timeWindowCmd, cmdMode, cmdQueue, cmdExpire, hq0, hx0, atoi_toString q (by omega),
    atoi_toString x (by omega)]
  obtain ⟨_, ⟨_, _, _, _, _, _, _, _⟩⟩ := config
  subst hlora hen hmode hQ hX
  rfl

/-- The night configuration prints its status in five lines, and those typed back on a node
holding the zero configuration rebuild it. -/
theorem status_replay_restores_config_night :
    Config.night.hasLora = true ∧ Config.night.lora.timeWindowEnabled = true ∧
    Config.night.lora.TimesValid ∧ Config.night.lora.windowMode = queuePackets ∧
    (1 ≤ Config.night.lora.windowQueueSize ∧ Config.night.lora.windowQueueSize ≤ 100) ∧
    (1 ≤ Config.night.lora.windowPacketExpireSecs ∧
      Config.night.lora.windowPacketExpireSecs ≤ 2147483647) ∧
    printTimeWindowStatus Config.night =
      ["Time window: Enabled", "Window: 21:00 - 23:00", "Mode: Queue packets",
        "Queue size: 5 packets", "Packet expiry: 3600 seconds"] ∧
    ["window enable", "window set 21:00 23:00", "window mode queue", "window queue 5",
        "window expire 3600"].foldl (fun c line => (windowCmd c line).1)
      ⟨false, ⟨false, 0, 0, 0, 0, 0, 0, 0⟩⟩ = Config.night :=
  ⟨rfl, rfl, by decide, rfl, by decide, by decide,
    status_replay_restores_config Config.night ⟨false, ⟨false, 0, 0, 0, 0, 0, 0, 0⟩⟩ rfl rfl
      (by decide) rfl (by decide) (by decide)⟩

end RadioWindow
