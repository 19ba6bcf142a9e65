import UltimateEnigma.BackupExport
import UltimateEnigma.Machine
import UltimateEnigma.Newest
import Mathlib.Data.String.Basic

set_option autoImplicit false

namespace UltimateEnigma.BackupService

open Py

/-- The local time that `strftime` writes. -/
structure Stamp where
  year : Nat
  month : Nat
  day : Nat
  hour : Nat
  minute : Nat
  second : Nat
deriving DecidableEq, Repr

structure Stamp.Valid (stamp : Stamp) : Prop where
  year : 1000 ≤ stamp.year ∧ stamp.year ≤ 9999
  month : stamp.month ≤ 12
  day : stamp.day ≤ 31
  hour : stamp.hour ≤ 23
  minute : stamp.minute ≤ 59
  second : stamp.second ≤ 61

def Stamp.fields (stamp : Stamp) : List Nat :=
  [stamp.year, stamp.month, stamp.day, stamp.hour, stamp.minute, stamp.second]

def decimalDigit (value : Nat) : Char := Char.ofNat (48 + value)

/-- `%0{width}d`. -/
def zeroPadded : Nat → Nat → List Char
  | 0, _ => []
  | width + 1, value => zeroPadded width (value / 10) ++ [decimalDigit (value % 10)]

/-- `time.strftime("%Y%m%d_%H%M%S")`. -/
def Stamp.text (stamp : Stamp) : List Char :=
  zeroPadded 4 stamp.year ++ (zeroPadded 2 stamp.month ++ (zeroPadded 2 stamp.day ++
    ('_' :: (zeroPadded 2 stamp.hour ++ (zeroPadded 2 stamp.minute ++
      zeroPadded 2 stamp.second)))))

def backupPrefix : String := "enigma_backup_"

def backupSuffix : String := ".json"

/-- `f"enigma_backup_\x7btimestamp\x7d.json"`. -/
def filename (stamp : Stamp) : String :=
  String.ofList (backupPrefix.toList ++ (stamp.text ++ backupSuffix.toList))

/-- The pattern `enigma_backup_*.json`. -/
def isBackupFile (name : String) : Bool :=
  backupPrefix.toList.isPrefixOf name.toList &&
    backupSuffix.toList.isSuffixOf (name.toList.drop backupPrefix.toList.length)

/-- What a file holds: JSON text, or something `json.load` refuses. -/
inductive Content where
  | json (data : Json)
  | other (bytes : Bytes)

/-- The backup directory, and `last_backup_ts` in the settings. -/
structure Folder where
  files : Dict String Content
  lastBackupTs : Option Int

/-- How `open`, `json.dump` and `chmod` go: to their end, not even to a file, or up to an
`OSError` that leaves something behind. -/
inductive Writing where
  | complete
  | refused
  | interrupted (left : Content)

inductive FileError where
  | exporting (cause : ExportError)
  | backupServiceError (message : String)
deriving DecidableEq

/-- `list_backups`. No two files of a directory have one name. -/
def listBackups (files : Dict String Content) : List String :=
  (files.keys.filter isBackupFile).insertionSort (· ≥ ·)

/-- `_prune_old_backups`; an `OSError` of `unlink` is only logged. -/
def pruneOldBackups (maxBackups : Nat) (undeletable : String → Bool)
    (files : Dict String Content) : Dict String Content :=
  ((listBackups files).drop maxBackups).foldl
    (fun left name => if undeletable name then left else left.erase name) files

/-- What an export meets on its way: the result of `export_backup`, the local time, the time,
how the file is written, whether the database takes the timestamp, and which files `unlink`
refuses to remove. -/
structure ExportRun where
  exported : Except ExportError Json
  stamp : Stamp
  now : Int
  writing : Writing
  recorded : Bool
  undeletable : String → Bool

/-- `export_backup_to_file`. -/
def exportBackupToFile (maxBackups : Nat) (run : ExportRun) : Call FileError Folder String := do
  let data ← Call.lift (run.exported.mapError FileError.exporting)
  match run.writing with
  | .refused => Call.raise (.backupServiceError "Failed to write backup file: ")
  | .interrupted left => do
      Call.modify fun folder => { folder with files := folder.files.set (filename run.stamp) left }
      Call.raise (.backupServiceError "Failed to write backup file: ")
  | .complete => do
      Call.modify fun folder =>
        { folder with files := folder.files.set (filename run.stamp) (.json data) }
      if run.recorded then
        Call.modify fun folder => { folder with lastBackupTs := some run.now }
      Call.modify fun folder =>
        { folder with files := pruneOldBackups maxBackups run.undeletable folder.files }
      return filename run.stamp

/-- The first half of `import_backup_from_file`. -/
def readBackupFile (folder : Folder) (name : String) : Except FileError Json :=
  match folder.files.get? name with
  | some (.json data) => .ok data
  | _ => .error (.backupServiceError "Cannot read backup file: ")

section Names

theorem append_lt_append_iff {α : Type} [LinearOrder α] (front back : List α) (left right : List α)
    (size : front.length = back.length) :
    front ++ left < back ++ right ↔ front < back ∨ front = back ∧ left < right := by
  induction front generalizing back with
  | nil =>
      rw [List.length_nil] at size
      rw [List.length_eq_zero_iff.mp size.symm]
      simp
  | cons head rest ih =>
      cases back with
      | nil => cases size
      | cons other others =>
          have shorter : rest.length = others.length := Nat.succ.inj size
          simp only [List.cons_append, List.cons_lt_cons_iff, ih others shorter, List.cons.injEq]
          tauto

theorem decimalDigit_lt {first second : Nat} (low : first < 10) (high : second < 10) :
    decimalDigit first < decimalDigit second ↔ first < second := by
  interval_cases first <;> interval_cases second <;> decide

theorem decimalDigit_inj {first second : Nat} (low : first < 10) (high : second < 10) :
    decimalDigit first = decimalDigit second ↔ first = second := by
  interval_cases first <;> interval_cases second <;> decide

theorem zeroPadded_length (width value : Nat) : (zeroPadded width value).length = width := by
  induction width generalizing value with
  | zero => rfl
  | succ width ih => rw [zeroPadded, List.length_append, ih, List.length_singleton]

theorem zeroPadded_inj {width first second : Nat} (low : first < 10 ^ width)
    (high : second < 10 ^ width) (same : zeroPadded width first = zeroPadded width second) :
    first = second := by
  induction width generalizing first second with
  | zero =>
      rw [pow_zero] at low high
      omega
  | succ width ih =>
      rw [pow_succ] at low high
      obtain ⟨front, last⟩ := List.append_inj same
        ((zeroPadded_length _ _).trans (zeroPadded_length _ _).symm)
      have upper := ih (by omega) (by omega) front
      have lower := (decimalDigit_inj (Nat.mod_lt first (by decide : 0 < 10))
        (Nat.mod_lt second (by decide : 0 < 10))).mp (List.singleton_inj.mp last)
      omega

/-- Zero padding makes the order of the digits the order of the numbers. -/
theorem zeroPadded_lt {width first second : Nat} (low : first < 10 ^ width)
    (high : second < 10 ^ width) :
    zeroPadded width first < zeroPadded width second ↔ first < second := by
  induction width generalizing first second with
  | zero =>
      rw [pow_zero] at low high
      simp only [zeroPadded, List.not_lt_nil, false_iff]
      omega
  | succ width ih =>
      rw [pow_succ] at low high
      have digit := decimalDigit_lt (Nat.mod_lt first (by decide : 0 < 10))
        (Nat.mod_lt second (by decide : 0 < 10))
      have front : zeroPadded width (first / 10) < zeroPadded width (second / 10) ↔
          first / 10 < second / 10 := ih (by omega) (by omega)
      have same : zeroPadded width (first / 10) = zeroPadded width (second / 10) ↔
          first / 10 = second / 10 :=
        ⟨zeroPadded_inj (by omega) (by omega), congrArg _⟩
      rw [zeroPadded, zeroPadded, append_lt_append_iff _ _ _ _
        ((zeroPadded_length _ _).trans (zeroPadded_length _ _).symm), front, same]
      simp only [List.cons_lt_cons_iff, List.not_lt_nil, and_false, or_false, digit]
      omega

theorem padded_append_lt {width first second : Nat} (low : first < 10 ^ width)
    (high : second < 10 ^ width) (left right : List Char) :
    zeroPadded width first ++ left < zeroPadded width second ++ right ↔
      first < second ∨ first = second ∧ left < right := by
  have same : zeroPadded width first = zeroPadded width second ↔ first = second :=
    ⟨zeroPadded_inj low high, congrArg _⟩
  rw [append_lt_append_iff _ _ _ _ ((zeroPadded_length _ _).trans (zeroPadded_length _ _).symm),
    zeroPadded_lt low high, same]

/-- The names sort as the times they were made at. -/
theorem filename_lt_iff {first second : Stamp} (low : first.Valid) (high : second.Valid) :
    filename first < filename second ↔ first.fields < second.fields := by
  obtain ⟨⟨_, lowYear⟩, lowMonth, lowDay, lowHour, lowMinute, lowSecond⟩ := low
  obtain ⟨⟨_, highYear⟩, highMonth, highDay, highHour, highMinute, highSecond⟩ := high
  unfold filename Stamp.text Stamp.fields
  rw [String.lt_iff_toList_lt, String.toList_ofList, String.toList_ofList,
    append_lt_append_iff _ _ _ _ rfl]
  simp only [lt_irrefl, false_or, true_and, List.append_assoc, List.cons_append]
  rw [padded_append_lt (by omega) (by omega), padded_append_lt (by omega) (by omega),
    padded_append_lt (by omega) (by omega), List.cons_lt_cons_iff,
    padded_append_lt (by omega) (by omega), padded_append_lt (by omega) (by omega),
    padded_append_lt (by omega) (by omega)]
  simp only [lt_irrefl, false_or, true_and, and_false, or_false, List.cons_lt_cons_iff]

end Names

section Pruning

/-- The names of the backups that are there. -/
def backupNames (files : Dict String Content) : Finset String :=
  (files.keys.filter isBackupFile).toFinset

theorem isBackupFile_filename (stamp : Stamp) : isBackupFile (filename stamp) = true := by
  unfold isBackupFile filename
  rw [String.toList_ofList, List.drop_left, Bool.and_eq_true]
  exact ⟨List.isPrefixOf_iff_prefix.mpr (List.prefix_append _ _),
    List.isSuffixOf_iff_suffix.mpr (List.suffix_append _ _)⟩

theorem mem_backupNames {files : Dict String Content} {name : String} :
    name ∈ backupNames files ↔ isBackupFile name = true ∧ (files.get? name).isSome := by
  have present : name ∈ files.keys ↔ (files.get? name).isSome := by
    rw [← Option.ne_none_iff_isSome, ne_eq, Dict.get?_eq_none_iff, not_not]
  rw [backupNames, List.mem_toFinset, List.mem_filter, present]
  exact and_comm

theorem backupNames_set (files : Dict String Content) (name : String) (content : Content) :
    backupNames (files.set name content) =
      if isBackupFile name then insert name (backupNames files) else backupNames files := by
  ext other
  have stored := Dict.get?_set files name other content
  by_cases matching : isBackupFile name = true
  · rw [if_pos matching, Finset.mem_insert, mem_backupNames, mem_backupNames, stored]
    by_cases same : other = name
    · simp [same, matching]
    · simp [same]
  · rw [if_neg matching, mem_backupNames, mem_backupNames, stored]
    by_cases same : other = name
    · simp [same, matching]
    · simp [same]

theorem listBackups_toFinset (files : Dict String Content) :
    (listBackups files).toFinset = backupNames files := by
  ext name
  rw [List.mem_toFinset, listBackups, List.mem_insertionSort, backupNames, List.mem_toFinset]

/-- Newest first, and no name twice. -/
theorem listBackups_descending (files : Dict String Content) :
    (listBackups files).Pairwise (· > ·) := by
  have sorted : (listBackups files).Pairwise (· ≥ ·) := List.pairwise_insertionSort _ _
  have distinct : (listBackups files).Nodup :=
    (List.perm_insertionSort _ _).nodup_iff.mpr (files.keys_nodup.filter _)
  exact (sorted.and distinct).imp fun both => lt_of_le_of_ne both.1 both.2.symm

theorem get?_erased (undeletable : String → Bool) (names : List String)
    (files : Dict String Content) (name : String) :
    (names.foldl (fun left name => if undeletable name then left else left.erase name)
      files).get? name =
        if name ∈ names ∧ undeletable name = false then none else files.get? name := by
  induction names generalizing files with
  | nil => simp
  | cons head rest ih =>
      rw [List.foldl_cons, ih]
      by_cases held : undeletable head = true
      · by_cases same : name = head
        · simp [held, same]
        · simp [held, same]
      · by_cases same : name = head
        · simp [held, same]
        · simp [held, same, Dict.get?_erase]

/-- Only a file that is not among the newest, and that can be removed, goes. -/
theorem get?_pruneOldBackups (maxBackups : Nat) (undeletable : String → Bool)
    (files : Dict String Content) (name : String) :
    (pruneOldBackups maxBackups undeletable files).get? name =
      if name ∈ backupNames files ∧ name ∉ Newest.kept maxBackups (backupNames files) ∧
        undeletable name = false then none else files.get? name := by
  have descending := listBackups_descending files
  have distinct : (listBackups files).Nodup := descending.imp fun later => later.ne'
  have front : ((listBackups files).take maxBackups).toFinset =
      Newest.kept maxBackups (backupNames files) := by
    rw [Newest.toFinset_take descending, listBackups_toFinset]
  have kept : name ∈ (listBackups files).take maxBackups ↔
      name ∈ Newest.kept maxBackups (backupNames files) := by
    rw [← front, List.mem_toFinset]
  have listed : name ∈ listBackups files ↔ name ∈ backupNames files := by
    rw [← listBackups_toFinset, List.mem_toFinset]
  have split : name ∈ listBackups files ↔ name ∈ (listBackups files).take maxBackups ∨
      name ∈ (listBackups files).drop maxBackups := by
    rw [← List.mem_append, List.take_append_drop]
  have apart : name ∈ (listBackups files).take maxBackups →
      name ∉ (listBackups files).drop maxBackups :=
    fun first second => List.disjoint_take_drop distinct (Nat.le_refl _) first second
  have dropped : name ∈ (listBackups files).drop maxBackups ↔
      name ∈ backupNames files ∧ name ∉ Newest.kept maxBackups (backupNames files) := by
    rw [← kept, ← listed, split]
    tauto
  rw [pruneOldBackups, get?_erased]
  simp only [dropped, and_assoc]

theorem mem_pruned {maxBackups : Nat} {undeletable : String → Bool} {files : Dict String Content}
    {name : String} :
    name ∈ backupNames (pruneOldBackups maxBackups undeletable files) ↔
      name ∈ backupNames files ∧
        (name ∈ Newest.kept maxBackups (backupNames files) ∨ undeletable name = true) := by
  rw [mem_backupNames, get?_pruneOldBackups]
  have there : name ∈ backupNames files ↔
      isBackupFile name = true ∧ (files.get? name).isSome := mem_backupNames
  split
  · rename_i gone
    simp [gone.2.1, gone.2.2]
  · rename_i stays
    rw [← there]
    cases held : undeletable name with
    | true => simp
    | false =>
        simp only [held, and_true, not_and, not_not] at stays
        simp only [Bool.false_eq_true, or_false]
        exact ⟨fun inside => ⟨inside, stays inside⟩, fun both => both.1⟩

end Pruning

/-- A backup directory, and every backup name that was ever put there. -/
structure FolderWorld where
  folder : Folder
  ever : Finset String

/-- An export, or a file that someone else puts into the directory. -/
inductive FolderEvent where
  | save (run : ExportRun)
  | arrive (name : String) (content : Content)

/-- Whether the export gets as far as a file. -/
def ExportRun.writes (run : ExportRun) : Bool :=
  match run.exported, run.writing with
  | .error _, _ => false
  | .ok _, .refused => false
  | .ok _, _ => true

def folderRuns (maxBackups : Nat) : Machine FolderWorld FolderEvent where
  start world := world.ever = backupNames world.folder.files
  enabled _ _ := True
  apply world
    | .save run =>
        { folder := ((exportBackupToFile maxBackups run).run world.folder).2
          ever := if run.writes then insert (filename run.stamp) world.ever else world.ever }
    | .arrive name content =>
        { folder := { world.folder with files := world.folder.files.set name content }
          ever := if isBackupFile name then insert name world.ever else world.ever }

theorem exportBackupToFile_complete (maxBackups : Nat) {run : ExportRun} {data : Json}
    (exported : run.exported = .ok data) (complete : run.writing = .complete) (folder : Folder) :
    (exportBackupToFile maxBackups run).run folder =
      (.ok (filename run.stamp),
        { files := pruneOldBackups maxBackups run.undeletable
            (folder.files.set (filename run.stamp) (.json data))
          lastBackupTs := if run.recorded then some run.now else folder.lastBackupTs }) := by
  unfold exportBackupToFile
  rw [exported, complete]
  cases recorded : run.recorded with
  | true => rfl
  | false => rfl

/-- Nothing of the newest is missing, and nothing is there that was never put there. -/
structure Bounded (maxBackups : Nat) (world : FolderWorld) : Prop where
  lower : Newest.kept maxBackups world.ever ⊆ backupNames world.folder.files
  upper : backupNames world.folder.files ⊆ world.ever

theorem Bounded.put {maxBackups : Nat} {world : FolderWorld} (bounded : Bounded maxBackups world)
    {name : String} (matching : isBackupFile name = true) (content : Content) (ts : Option Int) :
    Bounded maxBackups
      { folder := { files := world.folder.files.set name content, lastBackupTs := ts }
        ever := insert name world.ever } := by
  have names := backupNames_set world.folder.files name content
  rw [if_pos matching] at names
  constructor
  · rw [names]
    exact Newest.kept_insert_subset bounded.lower name
  · rw [names]
    exact Finset.insert_subset_insert _ bounded.upper

theorem Bounded.pruned {maxBackups : Nat} {world : FolderWorld}
    (bounded : Bounded maxBackups world) (undeletable : String → Bool) (ts : Option Int) :
    Bounded maxBackups { world with
      folder := { files := pruneOldBackups maxBackups undeletable world.folder.files
                  lastBackupTs := ts } } := by
  have same := Newest.kept_eq_of_between bounded.lower bounded.upper
  constructor
  · intro name chosen
    rw [mem_pruned, same]
    exact ⟨bounded.lower chosen, Or.inl chosen⟩
  · intro name inside
    exact bounded.upper (mem_pruned.mp inside).1

theorem bounded_of_reachable {maxBackups : Nat} {world : FolderWorld}
    (reachable : (folderRuns maxBackups).Reachable (fun _ _ => True) world) :
    Bounded maxBackups world := by
  refine Machine.Reachable.invariant _ (Bounded maxBackups) ?_ ?_ reachable
  · intro start initial
    have initial : start.ever = backupNames start.folder.files := initial
    constructor
    · rw [initial]
      exact Newest.kept_subset
    · rw [initial]
  · intro before event _ bounded _ _
    cases event with
    | arrive name content =>
        by_cases matching : isBackupFile name = true
        · have put := bounded.put matching content before.folder.lastBackupTs
          simp only [folderRuns, matching, ↓reduceIte]
          exact put
        · have names := backupNames_set before.folder.files name content
          rw [if_neg matching] at names
          simp only [folderRuns, matching, Bool.false_eq_true, ↓reduceIte]
          exact ⟨names ▸ bounded.lower, names ▸ bounded.upper⟩
    | save run =>
        have matching := isBackupFile_filename run.stamp
        cases exported : run.exported with
        | error cause =>
            simp only [folderRuns, exportBackupToFile, ExportRun.writes, exported]
            exact bounded
        | ok data =>
            cases writing : run.writing with
            | refused =>
                simp only [folderRuns, exportBackupToFile, ExportRun.writes, exported, writing]
                exact bounded
            | interrupted left =>
                simp only [folderRuns, exportBackupToFile, ExportRun.writes, exported, writing]
                exact bounded.put matching left before.folder.lastBackupTs
            | complete =>
                have ran := exportBackupToFile_complete maxBackups exported writing before.folder
                simp only [folderRuns, ran, ExportRun.writes, exported, writing, ↓reduceIte]
                exact (bounded.put matching (.json data) before.folder.lastBackupTs).pruned
                  run.undeletable _

/-- Exports keep the newest backups. In every run, also with files from elsewhere, failed writes
and files that cannot be removed, none of the `maxBackups` greatest names ever put into the
directory is missing; a completed export whose removals succeed leaves exactly these; the names
sort as their times; and the new backup is there to be read unless that many later ones already
are, although its path is returned either way. -/
theorem newest_backups_kept (maxBackups : Nat) (world : FolderWorld)
    (reachable : (folderRuns maxBackups).Reachable (fun _ _ => True) world) :
    Newest.kept maxBackups world.ever ⊆ backupNames world.folder.files ∧
    (∀ first second : Stamp, first.Valid → second.Valid →
      (filename first < filename second ↔ first.fields < second.fields)) ∧
    ∀ run data, run.exported = .ok data → run.writing = .complete →
      ((exportBackupToFile maxBackups run).run world.folder).1 = .ok (filename run.stamp) ∧
      ((∀ name, run.undeletable name = false) →
        backupNames ((exportBackupToFile maxBackups run).run world.folder).2.files =
          Newest.kept maxBackups (insert (filename run.stamp) world.ever)) ∧
      (readBackupFile ((exportBackupToFile maxBackups run).run world.folder).2
          (filename run.stamp) = .ok data ↔
        ((backupNames world.folder.files).filter (filename run.stamp < ·)).card < maxBackups ∨
          run.undeletable (filename run.stamp) = true) := by
  have bounded := bounded_of_reachable reachable
  refine ⟨bounded.lower, fun first second low high => filename_lt_iff low high, ?_⟩
  intro run data exported complete
  rw [exportBackupToFile_complete maxBackups exported complete]
  have matching := isBackupFile_filename run.stamp
  have put := bounded.put matching (.json data) world.folder.lastBackupTs
  have names := backupNames_set world.folder.files (filename run.stamp) (.json data)
  rw [if_pos matching] at names
  refine ⟨rfl, ?_, ?_⟩
  · intro removable
    rw [← Newest.kept_eq_of_between put.lower put.upper]
    ext name
    rw [mem_pruned, removable name]
    simp only [Bool.false_eq_true, or_false]
    exact ⟨fun both => both.2, fun chosen => ⟨Newest.kept_subset chosen, chosen⟩⟩
  · have above : ((insert (filename run.stamp) (backupNames world.folder.files)).filter
        (filename run.stamp < ·)) =
          (backupNames world.folder.files).filter (filename run.stamp < ·) := by
      rw [Finset.filter_insert, if_neg (lt_irrefl _)]
    have chosen : filename run.stamp ∈ Newest.kept maxBackups
        (insert (filename run.stamp) (backupNames world.folder.files)) ↔
          ((backupNames world.folder.files).filter (filename run.stamp < ·)).card <
            maxBackups := by
      rw [Newest.mem_kept, above]
      simp only [Finset.mem_insert_self, true_and]
    unfold readBackupFile
    rw [get?_pruneOldBackups, names, Dict.get?_set_self]
    simp only [Finset.mem_insert_self, true_and, chosen]
    by_cases few : ((backupNames world.folder.files).filter (filename run.stamp < ·)).card <
        maxBackups
    · simp only [few, not_true_eq_false, false_and, ↓reduceIte, true_or]
    · cases held : run.undeletable (filename run.stamp) with
      | true => simp only [Bool.true_eq_false, and_false, ↓reduceIte, or_true]
      | false =>
          simp only [few, not_false_eq_true, and_self, ↓reduceIte, reduceCtorEq,
            Bool.false_eq_true, or_self]

section Example

def toyStamp (day second : Nat) : Stamp := ⟨2024, 5, day, 12, 0, second⟩

def toyExport (day second : Nat) (data : Json) : ExportRun where
  exported := .ok data
  stamp := toyStamp day second
  now := 0
  writing := .complete
  recorded := true
  undeletable _ := false

def toyFolder : FolderWorld := ⟨⟨.empty, none⟩, ∅⟩

/-- Three backups where two are kept, and then a clock that has been set back. -/
def toyFolderRun : List (FolderWorld → FolderEvent) :=
  [fun _ => .save (toyExport 1 0 (.str "first")),
   fun _ => .save (toyExport 2 0 (.str "second")),
   fun _ => .save (toyExport 2 30 (.str "third"))]

def toyKept : FolderWorld := (folderRuns 2).run toyFolder toyFolderRun

/-- The fourth export returns a path at which there is nothing any more. -/
theorem toyKept_backups :
    ((exportBackupToFile 2 (toyExport 1 5 (.str "fourth"))).run toyKept.folder).1 =
      .ok (filename (toyStamp 1 5)) ∧
    ¬ readBackupFile ((exportBackupToFile 2 (toyExport 1 5 (.str "fourth"))).run
      toyKept.folder).2 (filename (toyStamp 1 5)) = .ok (.str "fourth") := by
  have reachable : (folderRuns 2).Reachable (fun _ _ => True) toyKept :=
    .run (.start rfl) ⟨trivial, trivial, trivial, trivial, trivial, trivial, trivial⟩
  obtain ⟨_, _, saved⟩ := newest_backups_kept 2 toyKept reachable
  obtain ⟨returned, _, there⟩ := saved (toyExport 1 5 (.str "fourth")) (.str "fourth") rfl rfl
  refine ⟨returned, fun found => ?_⟩
  have few := there.mp found
  revert few
  decide +kernel

end Example

end UltimateEnigma.BackupService
