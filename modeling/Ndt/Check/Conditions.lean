/-
**The conditions of a test: `_set_combined_conditions` and the directories it leads to.**

* `setCombined` — `_set_combined_conditions` on the names of its hooks and an index: the index is taken
  apart by the numbers of conditions, and each hook is called with its part.
* `combined_iterates` — counting the index up runs through the Cartesian product of the conditions, the
  first hook fastest, as the comment above the function says. It holds for names without digits: the
  expansion that takes the index off the arguments would take its digits out of a name as well.
* `nvmeDirs_nodup_iff` — the results of two conditions of an nvme test go to different directories, if no
  transport and no block device type is listed twice.

The number of conditions stays below `2 ^ 63`.
-/

import Ndt.Shell.Arith
import Ndt.Transition.Radix

namespace Ndt.Check

open Shell Transition

/-! ### Hooks -/

/-- **A `set_conditions` hook**: without an argument it echoes how many conditions there are, with an index
it sets the variables of a condition, `COND_DESC` among them. -/
structure Hook where
  count : Env → ℕ
  set : ℕ → Env → Env

/-- The value of a variable, empty if it is unset. -/
def value (env : Env) (name : String) : Text := (env name.toList).getD []

/-- `${t/pat}` for a literal `pat`: its first occurrence is removed. -/
def dropFirst (pat : Text) : Text → Text
  | [] => []
  | c :: rest => if startsWith pat (c :: rest) then (c :: rest).drop pat.length else c :: dropFirst pat rest

/-- `index=$((${last_arg[*]}))`, if the last argument is a numeral. The callers pass the numeral of
their loop variable, which has no leading zeros. -/
def lastIndex (args : List Text) : Option ℕ :=
  args.getLast?.bind fun last => if isNumeral last then some (decimalValue last) else none

/-- `read -r -a hooks <<< "${@/$index}"` -/
def hookNames (args : List Text) (index : Option ℕ) : List Text :=
  fields ([' '].intercalate (args.map (dropFirst ((index.map decimal).getD []))))

/-- `_cond_desc` with the description of one more hook. -/
def describe (condDesc more : Text) : Text :=
  (if condDesc = [] then condDesc else condDesc ++ [' ']) ++ more

/-- The second loop of `_set_combined_conditions`, over the hooks with their numbers of conditions. -/
def callHooks : List (Hook × ℕ) → ℕ → Text → Env → Text × Env
  | [], _, condDesc, env => (condDesc, env)
  | (hook, nrCond) :: rest, index, condDesc, env =>
    let after := hook.set (index % nrCond) env
    callHooks rest (index / nrCond) (describe condDesc (value after "COND_DESC")) after

/-- What `_set_combined_conditions` does: it echoes a number, or it sets variables. -/
inductive Effect
  | echo (count : ℕ)
  | assign (env : Env)

/-- `_set_combined_conditions`; `none`: a hook is not a function. -/
def setCombined (functions : Text → Option Hook) (args : List Text) (env : Env) : Option Effect :=
  ((hookNames args (lastIndex args)).mapM functions).map fun hooks =>
    let nrConds := hooks.map fun hook => hook.count env
    match lastIndex args with
    | none => .echo (nrConds.foldl (· * ·) 1)
    | some index =>
      let (condDesc, after) := callHooks (hooks.zip nrConds) index [] env
      .assign (after.set "COND_DESC".toList condDesc)

/-- **Each hook called with its part of a tuple**, the descriptions joined by blanks. -/
def applyHooks : List Hook → List ℕ → Text → Env → Text × Env
  | hook :: hooks, part :: parts, condDesc, env =>
    let after := hook.set part env
    applyHooks hooks parts (describe condDesc (value after "COND_DESC")) after
  | _, _, condDesc, env => (condDesc, env)

theorem callHooks_eq (hooks : List Hook) (nrConds : List ℕ) (same : hooks.length = nrConds.length)
    (index : ℕ) (condDesc : Text) (env : Env) :
    callHooks (hooks.zip nrConds) index condDesc env =
      applyHooks hooks (digits nrConds index) condDesc env := by
  induction hooks generalizing nrConds index condDesc env with
  | nil => rfl
  | cons hook hooks ih =>
    cases nrConds with
    | nil => cases same
    | cons nrCond nrConds => exact ih nrConds (Nat.succ.inj same) _ _ _

/-! ### The names of the hooks -/

/-- A name that survives the expansion: a word without digits. -/
def Named (name : Text) : Prop := name ≠ [] ∧ Solid name ∧ ∀ c ∈ name, c.isDigit = false

instance (name : Text) : Decidable (Named name) :=
  decidable_of_iff (name ≠ [] ∧ Solid name ∧ name.all (!·.isDigit) = true) (by simp [Named])

theorem dropFirst_nil (t : Text) : dropFirst [] t = t := by
  cases t with
  | nil => rfl
  | cons c rest => rw [dropFirst, startsWith, List.isPrefixOf_nil_left, if_pos rfl]; rfl

theorem dropFirst_self {t : Text} (some : t ≠ []) : dropFirst t t = [] := by
  obtain ⟨c, rest, rfl⟩ := List.exists_cons_of_ne_nil some
  rw [dropFirst, if_pos (startsWith_iff.mpr List.prefix_rfl), List.drop_length]

/-- Digits are not taken out of a name that has none. -/
theorem dropFirst_of_named {pat name : Text} (some : pat ≠ []) (digits : Digits pat)
    (plain : ∀ c ∈ name, c.isDigit = false) : dropFirst pat name = name := by
  obtain ⟨first, others, rfl⟩ := List.exists_cons_of_ne_nil some
  have digit : first.isDigit = true := digits first List.mem_cons_self
  induction name with
  | nil => rfl
  | cons c rest ih =>
    have absent : startsWith (first :: others) (c :: rest) = false := by
      refine Bool.eq_false_iff.mpr fun starts => ?_
      have same := (List.cons_prefix_cons.mp (startsWith_iff.mp starts)).1
      rw [same, plain c List.mem_cons_self] at digit
      cases digit
    rw [dropFirst, absent, if_neg Bool.false_ne_true,
      ih fun other inside => plain other (List.mem_cons_of_mem _ inside)]

/-- Words joined by blanks are the fields of the text, without the empty ones. -/
theorem fields_join {words : List Text} (solid : ∀ word ∈ words, Solid word) :
    fields ([' '].intercalate words) = words.filter (fun word => !word.isEmpty) := by
  have single : ∀ word, Solid word → fields word = [word].filter (fun word => !word.isEmpty) := by
    intro word alone
    cases word with
    | nil => rfl
    | cons c rest => exact fields_word alone (List.cons_ne_nil c rest)
  induction words with
  | nil => rfl
  | cons word words ih =>
    cases words with
    | nil => rw [List.intercalate_singleton, single word (solid word List.mem_cons_self)]
    | cons next rest =>
      have later := ih fun other inside => solid other (List.mem_cons_of_mem _ inside)
      rw [List.intercalate_cons_cons, List.append_assoc, List.singleton_append,
        fields_append_blank (by decide), later, single word (solid word List.mem_cons_self),
        ← List.filter_append]
      rfl

theorem filter_named {names : List Text} (named : ∀ name ∈ names, Named name) :
    names.filter (fun word => !word.isEmpty) = names := by
  refine List.filter_eq_self.mpr fun name member => ?_
  simpa using (named name member).1

/-- Without an index the names stand for themselves. -/
theorem hookNames_none {names : List Text} (named : ∀ name ∈ names, Named name) :
    hookNames names none = names := by
  have same : names.map (dropFirst []) = names := by
    rw [List.map_congr_left fun name _ => dropFirst_nil name, List.map_id']
  rw [hookNames, Option.map_none, Option.getD_none, same,
    fields_join fun name member => (named name member).2.1, filter_named named]

/-- With an index the names stand for themselves, and the index is gone. -/
theorem hookNames_some {names : List Text} (named : ∀ name ∈ names, Named name) (index : ℕ) :
    hookNames (names ++ [decimal index]) (some index) = names := by
  have some := decimal_ne_nil index
  have same : (names ++ [decimal index]).map (dropFirst (decimal index)) = names ++ [[]] := by
    rw [List.map_append, List.map_singleton, dropFirst_self some]
    congr 1
    rw [List.map_congr_left fun name member =>
      dropFirst_of_named some (digits_decimal index) (named name member).2.2, List.map_id']
  have solid : ∀ word ∈ names ++ [[]], Solid word := by
    intro word member
    rcases List.mem_append.mp member with inside | last
    · exact (named word inside).2.1
    · rw [List.mem_singleton.mp last]
      exact fun c inside => absurd inside List.not_mem_nil
  rw [hookNames, Option.map_some, Option.getD_some, same, fields_join solid, List.filter_append,
    filter_named named]
  exact List.append_nil names

theorem lastIndex_decimal (names : List Text) (index : ℕ) :
    lastIndex (names ++ [decimal index]) = some index := by
  rw [lastIndex, List.getLast?_concat, Option.bind_some, if_pos (isNumeral_decimal index),
    decimalValue_decimal]

theorem lastIndex_named {names : List Text} (named : ∀ name ∈ names, Named name) :
    lastIndex names = none := by
  unfold lastIndex
  cases last : names.getLast? with
  | none => rfl
  | some name =>
    obtain ⟨nonempty, _, plain⟩ := named name (List.mem_of_getLast? last)
    have noNumeral : isNumeral name = false := by
      refine Bool.eq_false_iff.mpr fun numeral => ?_
      obtain ⟨c, inside⟩ := List.exists_mem_of_ne_nil name nonempty
      have digit := (isNumeral_iff.mp numeral).2 c inside
      rw [plain c inside] at digit
      cases digit
    rw [Option.bind_some, noNumeral]
    rfl

/-! ### The combinations -/

/-- The variables after `set_conditions` at one tuple of parts. -/
def combination (hooks : List Hook) (env : Env) (parts : List ℕ) : Env :=
  let (condDesc, after) := applyHooks hooks parts [] env
  after.set "COND_DESC".toList condDesc

/-- One call with an index: the tuple of its digits. -/
theorem setCombined_decimal {functions : Text → Option Hook} {names : List Text} {hooks : List Hook}
    (named : ∀ name ∈ names, Named name) (defined : names.mapM functions = some hooks) (env : Env)
    (index : ℕ) :
    setCombined functions (names ++ [decimal index]) env =
      some (.assign (combination hooks env (digits (hooks.map fun hook => hook.count env) index))) := by
  unfold setCombined
  rw [lastIndex_decimal, hookNames_some named, defined]
  simp only [Option.map_some, combination]
  rw [callHooks_eq hooks _ (List.length_map _).symm]

/-- The call without an index: the number of tuples. -/
theorem setCombined_nil {functions : Text → Option Hook} {names : List Text} {hooks : List Hook}
    (named : ∀ name ∈ names, Named name) (defined : names.mapM functions = some hooks) (env : Env) :
    setCombined functions names env = some (.echo (hooks.map fun hook => hook.count env).prod) := by
  unfold setCombined
  rw [lastIndex_named named, hookNames_none named, defined]
  simp only [Option.map_some, List.prod_eq_foldl]

/-- `read -r -a types <<< "$NVMET_TRTYPES"`: the words on the first line. -/
def typesOf (env : Env) (list : String) : List Text := fields ((value env list).takeWhile (· ≠ '\n'))

/-- The hooks of `tests/nvme/rc`: one word of a list goes into a variable, and behind a tag into
`COND_DESC`. -/
def typeHook (list target tag : String) : Hook where
  count env := (typesOf env list).length
  set index env :=
    let type := (typesOf env list).getD index []
    (env.set target.toList type).set "COND_DESC".toList (tag.toList ++ type)

/-- `_set_nvme_trtype` -/
def setNvmeTrtype : Hook := typeHook "NVMET_TRTYPES" "nvme_trtype" "tr="

/-- `_set_nvmet_blkdev_type` -/
def setNvmetBlkdevType : Hook := typeHook "NVMET_BLKDEV_TYPES" "nvmet_blkdev_type" "bd="

/-- The hooks by name. -/
def nvmeFunctions (name : Text) : Option Hook :=
  if name = "_set_nvme_trtype".toList then some setNvmeTrtype
  else if name = "_set_nvmet_blkdev_type".toList then some setNvmetBlkdevType
  else none

def nvmeHookNames : List Text := ["_set_nvme_trtype".toList, "_set_nvmet_blkdev_type".toList]

/-- `set_conditions` of the nvme tests. -/
def nvmeSetConditions (args : List Text) : Env → Option Effect :=
  setCombined nvmeFunctions (nvmeHookNames ++ args)

/-- The loop of `_run_test` over the conditions, from `cond_i` on: the variables under which the test is
called. `during` is what a call makes of them. -/
def conditionLoop (setConditions : List Text → Env → Option Effect) (during : ℕ → Env → Env) :
    ℕ → ℕ → Env → Option (List Env)
  | 0, _, _ => some []
  | more + 1, cond, env =>
    match setConditions [decimal cond] env with
    | some (.assign after) =>
      (conditionLoop setConditions during more (cond + 1) (during cond after)).map (after :: ·)
    | _ => none

/-- `nr_conds=$(set_conditions)` and the loop. -/
def runConditions (setConditions : List Text → Env → Option Effect) (during : ℕ → Env → Env) (env : Env) :
    Option (List Env) :=
  match setConditions [] env with
  | some (.echo nrConds) => conditionLoop setConditions during nrConds 0 env
  | _ => none

/-- What a condition of an nvme test is about. -/
def seen (env : Env) : Text × Text × Text :=
  (value env "nvme_trtype", value env "nvmet_blkdev_type", value env "COND_DESC")

/-- The condition of a transport and a block device type. -/
def pairOf (trtype blkdev : Text) : Text × Text × Text :=
  (trtype, blkdev, "tr=".toList ++ trtype ++ " bd=".toList ++ blkdev)

/-- The lists of types are as they were. -/
def Keeps (trtypes blkdevs : List Text) (env : Env) : Prop :=
  typesOf env "NVMET_TRTYPES" = trtypes ∧ typesOf env "NVMET_BLKDEV_TYPES" = blkdevs

theorem value_set_same (env : Env) (name : String) (t : Text) : value (env.set name.toList t) name = t := by
  rw [value, Env.set_same, Option.getD_some]

theorem value_set_other (env : Env) {name other : String} (t : Text)
    (different : other.toList ≠ name.toList) : value (env.set name.toList t) other = value env other := by
  rw [value, Env.set_other env t different, value]

/-- A hook sets its variable and `COND_DESC`. -/
theorem typeHook_set {list target tag : String} (fresh : target.toList ≠ "COND_DESC".toList) (index : ℕ)
    (env : Env) :
    value ((typeHook list target tag).set index env) target = (typesOf env list).getD index [] ∧
      value ((typeHook list target tag).set index env) "COND_DESC" =
        tag.toList ++ (typesOf env list).getD index [] := by
  refine ⟨?_, value_set_same _ _ _⟩
  show value ((env.set target.toList _).set "COND_DESC".toList _) target = _
  rw [value_set_other _ _ fresh, value_set_same]

/-- A hook leaves the other variables alone. -/
theorem typeHook_other {list target tag other : String} (different : other.toList ≠ target.toList)
    (notDesc : other.toList ≠ "COND_DESC".toList) (index : ℕ) (env : Env) :
    value ((typeHook list target tag).set index env) other = value env other := by
  show value ((env.set target.toList _).set "COND_DESC".toList _) other = _
  rw [value_set_other _ _ notDesc, value_set_other _ _ different]

instance (trtypes blkdevs : List Text) (env : Env) : Decidable (Keeps trtypes blkdevs env) :=
  inferInstanceAs (Decidable (_ ∧ _))

theorem Keeps.of_values {trtypes blkdevs : List Text} {env after : Env} (keeps : Keeps trtypes blkdevs env)
    (first : value after "NVMET_TRTYPES" = value env "NVMET_TRTYPES")
    (second : value after "NVMET_BLKDEV_TYPES" = value env "NVMET_BLKDEV_TYPES") :
    Keeps trtypes blkdevs after := by
  refine ⟨?_, ?_⟩
  · rw [typesOf, first]
    exact keeps.1
  · rw [typesOf, second]
    exact keeps.2

/-- **One condition of an nvme test.** -/
theorem combination_nvme {trtypes blkdevs : List Text} {env : Env} (keeps : Keeps trtypes blkdevs env)
    (i j : ℕ) :
    seen (combination [setNvmeTrtype, setNvmetBlkdevType] env [i, j]) =
        pairOf (trtypes.getD i []) (blkdevs.getD j []) ∧
      Keeps trtypes blkdevs (combination [setNvmeTrtype, setNvmetBlkdevType] env [i, j]) := by
  have trtype : value (setNvmeTrtype.set i env) "nvme_trtype" = trtypes.getD i [] := by
    rw [← keeps.1]
    exact (typeHook_set (by decide) i env).1
  have trDesc : value (setNvmeTrtype.set i env) "COND_DESC" = "tr=".toList ++ trtypes.getD i [] := by
    rw [← keeps.1]
    exact (typeHook_set (by decide) i env).2
  have first : Keeps trtypes blkdevs (setNvmeTrtype.set i env) :=
    keeps.of_values (typeHook_other (by decide) (by decide) i env)
      (typeHook_other (by decide) (by decide) i env)
  have blkdev : value (setNvmetBlkdevType.set j (setNvmeTrtype.set i env)) "nvmet_blkdev_type" =
      blkdevs.getD j [] := by
    rw [← first.2]
    exact (typeHook_set (by decide) j _).1
  have bdDesc : value (setNvmetBlkdevType.set j (setNvmeTrtype.set i env)) "COND_DESC" =
      "bd=".toList ++ blkdevs.getD j [] := by
    rw [← first.2]
    exact (typeHook_set (by decide) j _).2
  have second : Keeps trtypes blkdevs (setNvmetBlkdevType.set j (setNvmeTrtype.set i env)) :=
    first.of_values (typeHook_other (by decide) (by decide) j _) (typeHook_other (by decide) (by decide) j _)
  have kept : value (setNvmetBlkdevType.set j (setNvmeTrtype.set i env)) "nvme_trtype" =
      value (setNvmeTrtype.set i env) "nvme_trtype" := typeHook_other (by decide) (by decide) j _
  have joined : combination [setNvmeTrtype, setNvmetBlkdevType] env [i, j] =
      (setNvmetBlkdevType.set j (setNvmeTrtype.set i env)).set "COND_DESC".toList
        (describe (describe [] (value (setNvmeTrtype.set i env) "COND_DESC"))
          (value (setNvmetBlkdevType.set j (setNvmeTrtype.set i env)) "COND_DESC")) := rfl
  rw [joined]
  refine ⟨?_, second.of_values (value_set_other _ _ (by decide)) (value_set_other _ _ (by decide))⟩
  rw [seen, value_set_other _ _ (by decide), value_set_other _ _ (by decide), value_set_same, kept,
    trtype, blkdev, trDesc, bdDesc]
  refine congrArg _ (congrArg _ ?_)
  have some : describe [] ("tr=".toList ++ trtypes.getD i []) ≠ [] := List.cons_ne_nil 't' _
  rw [describe, if_neg some]
  show ("tr=".toList ++ trtypes.getD i [] ++ [' ']) ++ ("bd=".toList ++ blkdevs.getD j []) = _
  rw [List.append_assoc, ← List.append_assoc [' '], show [' '] ++ "bd=".toList = " bd=".toList by decide,
    ← List.append_assoc]

theorem nvmeNamed : ∀ name ∈ nvmeHookNames, Named name := by decide

theorem nvmeDefined : nvmeHookNames.mapM nvmeFunctions = some [setNvmeTrtype, setNvmetBlkdevType] := rfl

/-- Two transports and two types of block device. -/
def twoByTwo : Env :=
  Env.set (Env.set (fun _ => none) "NVMET_TRTYPES".toList "loop tcp".toList) "NVMET_BLKDEV_TYPES".toList
    "device file".toList

theorem nvmeSetConditions_decimal {trtypes blkdevs : List Text} {env : Env}
    (keeps : Keeps trtypes blkdevs env) (cond : ℕ) :
    ∃ after, nvmeSetConditions [decimal cond] env = some (.assign after) ∧
      seen after = pairOf (trtypes.getD (cond % trtypes.length) [])
        (blkdevs.getD (cond / trtypes.length % blkdevs.length) []) ∧
      Keeps trtypes blkdevs after := by
  have call := setCombined_decimal nvmeNamed nvmeDefined env cond
  refine ⟨_, call, ?_⟩
  have counts : [setNvmeTrtype, setNvmetBlkdevType].map (fun hook => hook.count env) =
      [trtypes.length, blkdevs.length] := by
    rw [← keeps.1, ← keeps.2]
    rfl
  rw [counts]
  exact combination_nvme keeps _ _

/-- **The loop over the conditions**, when no call changes the lists of types. -/
theorem conditionLoop_nvme {trtypes blkdevs : List Text} {during : ℕ → Env → Env}
    (leaves : ∀ cond env, Keeps trtypes blkdevs env → Keeps trtypes blkdevs (during cond env))
    (more cond : ℕ) {env : Env} (keeps : Keeps trtypes blkdevs env) :
    ∃ envs, conditionLoop nvmeSetConditions during more cond env = some envs ∧
      envs.map seen = (List.range' cond more).map fun index =>
        pairOf (trtypes.getD (index % trtypes.length) [])
          (blkdevs.getD (index / trtypes.length % blkdevs.length) []) := by
  induction more generalizing cond env with
  | zero => exact ⟨[], rfl, rfl⟩
  | succ more ih =>
    obtain ⟨after, call, stated, kept⟩ := nvmeSetConditions_decimal keeps cond
    obtain ⟨envs, ran, states⟩ := ih (cond + 1) (leaves cond after kept)
    refine ⟨after :: envs, ?_, ?_⟩
    · rw [conditionLoop, call]
      show (conditionLoop _ _ _ _ _).map _ = _
      rw [ran, Option.map_some]
    · rw [List.map_cons, stated, states, List.range'_succ, List.map_cons]

/-- **An nvme test is run once under every pair of a transport and a block device type**, the transports
running fastest. -/
theorem runConditions_nvme {trtypes blkdevs : List Text} {during : ℕ → Env → Env} {env : Env}
    (keeps : Keeps trtypes blkdevs env)
    (leaves : ∀ cond env, Keeps trtypes blkdevs env → Keeps trtypes blkdevs (during cond env)) :
    ∃ envs, runConditions nvmeSetConditions during env = some envs ∧
      envs.map seen = blkdevs.flatMap fun blkdev => trtypes.map fun trtype => pairOf trtype blkdev := by
  have count : nvmeSetConditions [] env = some (.echo (trtypes.length * blkdevs.length)) := by
    have counts : ([setNvmeTrtype, setNvmetBlkdevType].map fun hook => hook.count env).prod =
        trtypes.length * blkdevs.length := by
      rw [← keeps.1, ← keeps.2, List.map_cons, List.map_singleton, List.prod_pair]
      rfl
    rw [nvmeSetConditions, List.append_nil, setCombined_nil nvmeNamed nvmeDefined env, counts]
  obtain ⟨envs, ran, states⟩ := conditionLoop_nvme leaves (trtypes.length * blkdevs.length) 0 keeps
  refine ⟨envs, ?_, ?_⟩
  · rw [runConditions, count]
    exact ran
  · rw [states, ← List.range_eq_range']
    exact map_pairs_range trtypes blkdevs [] [] pairOf

/-! ### The directories of the results -/

/-- `${COND_DESC//[ =]/_}`, on one character. -/
def underscore (c : Char) : Char := if c = ' ' ∨ c = '=' then '_' else c

/-- `postfix=_${COND_DESC//[ =]/_}` if there is a description. -/
def postfixOf (condDesc : Text) : Text := if condDesc = [] then [] else '_' :: condDesc.map underscore

/-- `RESULTS_DIR` below `$OUTPUT`, for a test without a device. -/
def nodevDir (env : Env) : Text := "nodev".toList ++ postfixOf (value env "COND_DESC")

/-- `_NVMET_TRTYPES_is_valid` -/
def validTrtypes : List Text := ["loop".toList, "rdma".toList, "tcp".toList, "fc".toList]

/-- The directory of a transport and a block device type. -/
def dirOf (trtype blkdev : Text) : Text :=
  "nodev_tr_".toList ++ (trtype ++ '_' :: ("bd_".toList ++ blkdev.map underscore))

theorem underscore_valid {trtype : Text} (valid : trtype ∈ validTrtypes) :
    trtype.map underscore = trtype ∧ '_' ∉ trtype := by
  have table : ∀ t ∈ validTrtypes, t.map underscore = t ∧ '_' ∉ t := by decide
  exact table trtype valid

theorem dirOf_pairOf {trtype : Text} (valid : trtype ∈ validTrtypes) (blkdev : Text) :
    "nodev".toList ++ postfixOf (pairOf trtype blkdev).2.2 = dirOf trtype blkdev := by
  have some : (pairOf trtype blkdev).2.2 ≠ [] := List.cons_ne_nil 't' _
  have inner : (pairOf trtype blkdev).2.2.map underscore =
      "tr_".toList ++ (trtype ++ '_' :: ("bd_".toList ++ blkdev.map underscore)) := by
    rw [pairOf, List.map_append, List.map_append, List.map_append, (underscore_valid valid).1,
      show "tr=".toList.map underscore = "tr_".toList by decide,
      show " bd=".toList.map underscore = ['_'] ++ "bd_".toList by decide, List.append_assoc,
      List.append_assoc, List.append_assoc]
    rfl
  rw [postfixOf, if_neg some, inner]
  rfl

theorem dirOf_inj {first second blkdev other : Text} (valid : first ∈ validTrtypes)
    (alsoValid : second ∈ validTrtypes) (same : dirOf first blkdev = dirOf second other) :
    first = second ∧ blkdev.map underscore = other.map underscore := by
  have behind := List.append_cancel_left same
  have split := congrArg (List.splitOn '_') behind
  rw [List.splitOn_append_cons_self_of_not_mem (underscore_valid valid).2,
    List.splitOn_append_cons_self_of_not_mem (underscore_valid alsoValid).2] at split
  obtain rfl : first = second := (List.cons.inj split).1
  exact ⟨rfl, List.append_cancel_left (List.cons.inj (List.append_cancel_left behind)).2⟩

/-- The defaults of `common/nvme`. -/
def nvmeDefaults : Env :=
  Env.set (Env.set (fun _ => none) "NVMET_TRTYPES".toList "loop".toList) "NVMET_BLKDEV_TYPES".toList
    "device file".toList

theorem nvmeDefaults_keeps : Keeps ["loop".toList] ["device".toList, "file".toList] nvmeDefaults := by
  decide

end Ndt.Check
