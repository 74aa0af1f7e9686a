import FieldRules.Command.Run
import FieldRules.Proofs.Placed

/-! What runs leave alone.

A run may be refused whatever it asks of files. All that is relied on is that they are
`Faithful`: to look changes nothing, a write is done completely or not at all, and folders
are made in gaps only. The trees of this library are such files
(`FileTree.faithful_access`).

Commands that read leave the tree as it is (`Invocation.silent_run`). A run of `set` either
does not succeed and leaves it too, or has changed the one file (`Command.set_cases`); and a
run of `init` writes over a file only if it is told to, unless nothing was there under the
name until folders were made (`Command.init_cases`).

`Invocation.runAll_spares` says so of every run in a row of runs, and of each file through
all of them. -/
namespace FieldRules

/-! ### Files that are faithful -/

/-- It changes no file. -/
def Silent {α : Type} (m : StateM FileTree α) : Prop := ∀ t, (m.run t).2 = t

theorem silent_pure {α : Type} (a : α) : Silent (pure a) := fun _ => rfl

section
variable {α β : Type} {m : StateM FileTree α} {f : α → StateM FileTree β}

theorem Silent.run_bind (h : Silent m) (f : α → StateM FileTree β) (t : FileTree) :
    (m >>= f).run t = (f (m.run t).1).run t := by
  have hrun : m.run t = ((m.run t).1, t) := Prod.ext rfl (h t)
  rw [StateT.run_bind, hrun]
  rfl

theorem Silent.bind (h : Silent m) (hf : ∀ a, Silent (f a)) : Silent (m >>= f) := by
  intro t
  rw [h.run_bind]
  exact hf _ t

end

/-- Whatever may be refused, nothing is done by halves: to look changes nothing, a write is
done or not, and where folders are made nothing was. -/
structure FileAccess.Faithful (files : FileAccess (StateM FileTree)) : Prop where
  kind? : ∀ name t, (files.kind? name).run t = (t.kind? name, t)
  readText : ∀ name, Silent (files.readText name)
  writeText : ∀ name text t,
    (∃ e, (files.writeText name text).run t = (.error e, t)) ∨
      ∃ t', t.writeText name text = .ok t' ∧ (files.writeText name text).run t = (.ok (), t')
  makeFolder : ∀ name (t : FileTree), t.Within ((files.makeFolder name).run t).2

theorem FileTree.faithful_access : FileTree.access.Faithful where
  kind? _ _ := rfl
  readText _ _ := rfl
  writeText name text t := by
    cases h : t.writeText name text with
    | error e => exact .inl ⟨e, by simp only [FileTree.access, StateT.run, h]⟩
    | ok written => exact .inr ⟨written, rfl, by simp only [FileTree.access, StateT.run, h]⟩
  makeFolder name t := t.within_makeFolder name

namespace Command

/-- A command that looks at files and writes none. -/
inductive Reads : Command → Prop where
  | compile (fields : List String) (format : Option Format) : Reads (.compile fields format)
  | explain (declaration : String) (format : Option Format) : Reads (.explain declaration format)
  | list (format : Option Format) : Reads (.list format)
  | get (file path : String) : Reads (.get file path)

theorem reads_or_writes (c : Command) :
    c.Reads ∨ (∃ force, c = .init force) ∨ ∃ file path value, c = .set file path value := by
  cases c with
  | init force => exact .inr (.inl ⟨force, rfl⟩)
  | compile fields format => exact .inl (.compile fields format)
  | explain declaration format => exact .inl (.explain declaration format)
  | list format => exact .inl (.list format)
  | get file path => exact .inl (.get file path)
  | set file path value => exact .inr (.inr ⟨file, path, value, rfl⟩)

theorem code_refusal (r : Refusal) : (Outcome.refusal r).status.code ≠ 0 := by
  show r.status.code ≠ 0
  unfold Refusal.status
  split <;> exact fun h => nomatch h

section
variable {files : FileAccess (StateM FileTree)} (hfiles : files.Faithful)
include hfiles

/-! ### Commands that read -/

theorem silent_kind? (name : String) : Silent (files.kind? name) :=
  fun t => by rw [hfiles.kind?]

theorem silent_loadConfig (file : String) : Silent (loadConfig files file) := by
  refine (hfiles.readText file).bind fun answer => ?_
  cases answer with
  | error e => exact silent_pure _
  | ok text => cases h : Config.ofText text <;> simp only [h] <;> exact silent_pure _

theorem silent_config? (file : String) : Silent (config? files file) := by
  refine (silent_kind? hfiles file).bind fun kind => ?_
  cases kind with
  | none => exact silent_pure _
  | some _ => exact (silent_loadConfig hfiles file).bind fun _ => silent_pure _

theorem silent_config (file : String) : Silent (config files file) := by
  refine (silent_kind? hfiles file).bind fun kind => ?_
  cases kind with
  | none => exact silent_pure _
  | some _ => exact silent_loadConfig hfiles file

theorem silent_document (file : String) : Silent (document files file) := by
  refine (hfiles.readText file).bind fun answer => ?_
  cases answer with
  | error e => exact silent_pure _
  | ok text => cases h : Json.ofText? text <;> simp only [h] <;> exact silent_pure _

theorem silent_documentOrEmpty (file : String) : Silent (documentOrEmpty files file) := by
  refine (silent_kind? hfiles file).bind fun kind => ?_
  cases kind with
  | none => exact silent_pure _
  | some _ => exact silent_document hfiles file

theorem silent_runCompile (file : String) (choice : Choice) (fields : List String) :
    Silent (runCompile files file choice fields) :=
  (silent_config hfiles file).bind fun _ => silent_pure _

theorem silent_runExplain (file : String) (choice : Choice) (declaration : String) :
    Silent (runExplain files file choice declaration) :=
  (silent_config? hfiles file).bind fun _ => silent_pure _

theorem silent_runList (file : String) (choice : Choice) : Silent (runList files file choice) :=
  (silent_config? hfiles file).bind fun _ => silent_pure _

theorem silent_runGet (file path : String) : Silent (runGet files file path) := by
  refine (silent_document hfiles file).bind fun answer => ?_
  cases answer <;> exact silent_pure _

/-! ### Commands that write -/

theorem write_cases (t : FileTree) (file text : String) (refusal : IoError → Refusal)
    (outcome : Outcome) :
    let ran := (write files file text refusal outcome).run t
    (∃ r, ran = (.refusal r, t)) ∨ ran.1 = outcome ∧ t.ChangesOnly ran.2 file := by
  intro ran
  have hran : ran = (write files file text refusal outcome).run t := rfl
  rw [write, StateT.run_bind] at hran
  rcases hfiles.writeText file text t with ⟨e, hrun⟩ | ⟨t', hwritten, hrun⟩
  · rw [hrun] at hran
    exact .inl ⟨refusal e, hran⟩
  · rw [hrun] at hran
    exact .inr ⟨congrArg Prod.fst hran, hran ▸ FileTree.changesOnly_writeText hwritten⟩

/-- A run of `set` that does not succeed leaves the tree, and any other has changed the file. -/
theorem set_cases (t : FileTree) (file path value : String) :
    let ran := (runSet files file path value).run t
    (ran.1.status.code ≠ 0 ∧ ran.2 = t) ∨ (ran.1.status.code = 0 ∧ t.ChangesOnly ran.2 file) := by
  have hrefused : ∀ {ran : Outcome × FileTree} {r : Refusal}, ran = (.refusal r, t) →
      ran.1.status.code ≠ 0 ∧ ran.2 = t := by
    rintro ran r rfl
    exact ⟨code_refusal r, rfl⟩
  unfold runSet
  cases Json.ofText? value with
  | none => exact .inl (hrefused rfl)
  | some v =>
    dsimp only
    rw [(silent_documentOrEmpty hfiles file).run_bind]
    cases ((documentOrEmpty files file).run t).1 with
    | error e => exact .inl (hrefused rfl)
    | ok doc =>
      rcases write_cases hfiles t file (changed path v doc) (fun e => .document (.io file e))
        (.answer "") with ⟨r, hrun⟩ | ⟨houtcome, hchanges⟩
      · exact .inl (hrefused hrun)
      · exact .inr ⟨congrArg (·.status.code) houtcome, hchanges⟩

theorem writeStarter_cases (t : FileTree) (file : String) (outcome : Outcome) :
    let t' := ((writeStarter files file outcome).run t).2
    t' = t ∨ t.ChangesOnly t' file := by
  rcases write_cases hfiles t file Config.starter (fun e => .problem (.io e)) outcome with
    ⟨r, hrun⟩ | ⟨-, hchanges⟩
  · exact .inl (congrArg Prod.snd hrun)
  · exact .inr hchanges

theorem within_makeFolderOf (t : FileTree) (file : String) :
    t.Within ((makeFolderOf files file).run t).2 := by
  unfold makeFolderOf
  cases FileName.folder? file with
  | none => exact t.within_refl
  | some folder =>
    dsimp only
    rw [(silent_kind? hfiles folder).run_bind]
    cases ((files.kind? folder).run t).1 with
    | none => exact hfiles.makeFolder folder t
    | some _ => exact t.within_refl

section
variable {t : FileTree} {file : String}

theorem run_init_of_folder (h : t.kind? file = some .folder) (force : Bool) :
    (runInit files file force).run t = (.refusal (.folder file), t) := by
  rw [runInit, (silent_kind? hfiles file).run_bind, hfiles.kind?, h]
  rfl

theorem run_init_of_file (h : t.kind? file = some .file) (force : Bool) :
    (runInit files file force).run t =
      if force then (writeStarter files file (.answer ("Overwrote " ++ file ++ ".\n"))).run t
      else (.answer (file ++ " already exists. Use --force to overwrite it.\n"), t) := by
  rw [runInit, (silent_kind? hfiles file).run_bind, hfiles.kind?, h]
  cases force <;> rfl

theorem run_init_of_missing (h : t.kind? file = none) (force : Bool) :
    (runInit files file force).run t =
      match (makeFolderOf files file).run t with
      | (.error e, filled) => (.refusal (.problem (.io e)), filled)
      | (.ok (), filled) =>
        (writeStarter files file (.answer
          ("Created " ++ file ++ ". Add field declarations under [fields] to start compiling.\n"))).run
            filled := by
  rw [runInit, (silent_kind? hfiles file).run_bind, hfiles.kind?, h]
  dsimp only
  rw [StateT.run_bind]
  rcases (makeFolderOf files file).run t with ⟨e | _, filled⟩ <;> rfl

end

/-- A run of `init` leaves the tree, or writes over the file that it is told to. If nothing
is under the name then gaps are filled, and the file is written where the name leads now. -/
theorem init_cases (t : FileTree) (file : String) (force : Bool) :
    let t' := ((runInit files file force).run t).2
    t' = t ∨ (force = true ∧ t.ChangesOnly t' file) ∨
      (t.kind? file = none ∧ ∃ filled, t.Within filled ∧
        (t' = filled ∨ filled.ChangesOnly t' file)) := by
  intro t'
  cases hkind : t.kind? file with
  | none =>
    have hrun := run_init_of_missing hfiles hkind force
    have hwithin := within_makeFolderOf hfiles t file
    rcases hmade : (makeFolderOf files file).run t with ⟨e | _, filled⟩
    · rw [hmade] at hrun hwithin
      exact .inr (.inr ⟨rfl, filled, hwithin, .inl (congrArg Prod.snd hrun)⟩)
    · rw [hmade] at hrun hwithin
      refine .inr (.inr ⟨rfl, filled, hwithin, ?_⟩)
      rw [show t' = _ from congrArg Prod.snd hrun]
      exact writeStarter_cases hfiles ..
  | some kind =>
    cases kind with
    | folder => exact .inl (congrArg Prod.snd (run_init_of_folder hfiles hkind force))
    | file =>
      have hrun := run_init_of_file hfiles hkind force
      cases force with
      | false => exact .inl (congrArg Prod.snd hrun)
      | true =>
        rw [show t' = _ from congrArg Prod.snd hrun]
        exact (writeStarter_cases hfiles ..).imp_right fun hchanges => .inl ⟨rfl, hchanges⟩

end

end Command

namespace Invocation

/-! ### One run -/

/-- A run writes to the file that a name leads to: it is a `set` that names it, an `init`
that is told to overwrite it, or an `init` that found nothing under the name of its
configuration, where that name leads to the file over the folders that it made. -/
inductive WritesTo (i : Invocation) (t t' : FileTree) (name : String) : Prop where
  | saved {file path value : String} : i.command = .set file path value →
      t.locate file = t.locate name → WritesTo i t t' name
  | overwritten : i.command = .init true → t.locate i.config = t.locate name → WritesTo i t t' name
  | created {force : Bool} : i.command = .init force → t.kind? i.config = none →
      t'.locate i.config = t'.locate name → WritesTo i t t' name

/-- What a run that ends with an outcome leaves of a tree. -/
structure Spares (i : Invocation) (t : FileTree) (outcome : Outcome) (t' : FileTree) : Prop where
  reads : i.command.Reads → t' = t
  refused : ∀ file path value, i.command = .set file path value → outcome.status.code ≠ 0 → t' = t
  saved : ∀ file path value, i.command = .set file path value → outcome.status.code = 0 →
    t.ChangesOnly t' file
  config : ∀ node, t.find i.config = .ok node → node.kind = .file →
    t'.find i.config = .ok node ∨ i.command = .init true ∨
      ∃ file path value, i.command = .set file path value ∧ t.locate file = t.locate i.config

theorem run_of_set {m : Type → Type} [Monad m] (files : FileAccess m) (terminal : Bool)
    {i : Invocation} {file path value : String} (h : i.command = .set file path value) :
    i.run files terminal = Command.runSet files file path value := by
  rw [run, h]

theorem run_of_init {m : Type → Type} [Monad m] (files : FileAccess m) (terminal : Bool)
    {i : Invocation} {force : Bool} (h : i.command = .init force) :
    i.run files terminal = Command.runInit files i.config force := by
  rw [run, h]

section
variable {files : FileAccess (StateM FileTree)} (hfiles : files.Faithful)
include hfiles

theorem silent_run {i : Invocation} (h : i.command.Reads) (terminal : Bool) :
    Silent (i.run files terminal) := by
  obtain ⟨config, coloring, verbose, command⟩ := i
  cases h with
  | compile fields format => exact Command.silent_runCompile hfiles config _ fields
  | explain declaration format => exact Command.silent_runExplain hfiles config _ declaration
  | list format => exact Command.silent_runList hfiles config _
  | get file path => exact Command.silent_runGet hfiles file path

/-- What is found under a name is found there after the run, or it is written to. -/
theorem find_run (i : Invocation) (terminal : Bool) {t : FileTree} {name : String} {node : Node}
    (h : t.find name = .ok node) :
    let t' := ((i.run files terminal).run t).2
    t'.find name = .ok node ∨ i.WritesTo t t' name := by
  intro t'
  rcases i.command.reads_or_writes with hreads | ⟨force, hc⟩ | ⟨file, path, value, hc⟩
  · have hsame : t' = t := silent_run hfiles hreads terminal t
    exact .inl (hsame ▸ h)
  · have hcases := Command.init_cases hfiles t i.config force
    rw [← run_of_init files terminal hc] at hcases
    rcases hcases with (hsame : t' = t) | ⟨rfl, hchanges⟩ | ⟨hmissing, filled, hwithin, hfilled⟩
    · exact .inl (hsame ▸ h)
    · exact (hchanges.find h).imp_right (.overwritten hc)
    · have hfound := hwithin.find h
      rcases hfilled with (hsame : t' = filled) | hchanges
      · exact .inl (hsame ▸ hfound)
      · refine (hchanges.find hfound).imp_right fun hnames => .created hc hmissing ?_
        obtain ⟨here, hhere, -⟩ := hchanges.entries
        rw [(hchanges.places ..).mpr hhere, (hchanges.places ..).mpr (hnames ▸ hhere)]
  · have hcases := Command.set_cases hfiles t file path value
    rw [← run_of_set files terminal hc] at hcases
    rcases hcases with ⟨-, (hsame : t' = t)⟩ | ⟨-, hchanges⟩
    · exact .inl (hsame ▸ h)
    · exact (hchanges.find h).imp_right (.saved hc)

omit hfiles in
/-- No name led over a folder that was not there, and `init` writes to the file without being
told to. -/
example :
    let i : Invocation := ⟨"a/../ruleplan.toml", none, false, .init false⟩
    let t := FileTree.empty.put (.ofNames ["ruleplan.toml"]) (.file "kept".toUTF8)
    t.kind? "ruleplan.toml" = some .file ∧
      i.WritesTo t ((i.run FileTree.access false).run t).2 "ruleplan.toml" :=
  ⟨rfl, .created rfl rfl (by decide +kernel)⟩

theorem run_spares (i : Invocation) (terminal : Bool) (t : FileTree) :
    let ran := (i.run files terminal).run t
    i.Spares t ran.1 ran.2 := by
  intro ran
  have hset : ∀ file path value, i.command = .set file path value →
      (ran.1.status.code ≠ 0 ∧ ran.2 = t) ∨
        (ran.1.status.code = 0 ∧ t.ChangesOnly ran.2 file) := by
    intro file path value hc
    have hcases := Command.set_cases hfiles t file path value
    rwa [← run_of_set files terminal hc] at hcases
  refine ⟨fun hreads => silent_run hfiles hreads terminal t, ?refused, ?saved, ?config⟩
  case refused =>
    intro file path value hc hcode
    rcases hset file path value hc with ⟨-, hsame⟩ | ⟨hzero, -⟩
    · exact hsame
    · exact absurd hzero hcode
  case saved =>
    intro file path value hc hcode
    rcases hset file path value hc with ⟨hne, -⟩ | ⟨-, hchanges⟩
    · exact absurd hcode hne
    · exact hchanges
  case config =>
    intro node hfind hkind
    refine (find_run hfiles i terminal hfind).imp_right fun hwrites => ?_
    rcases hwrites with ⟨hc, hnames⟩ | ⟨hc, -⟩ | ⟨-, hmissing, -⟩
    · exact .inr ⟨_, _, _, hc, hnames⟩
    · exact .inl hc
    · -- Something was found under the name.
      simp [FileTree.kind?, hfind] at hmissing

end

/-! ### Runs in a row -/

section
variable (files : FileAccess (StateM FileTree))

/-- Runs one after the other, each with whether it is on a terminal. -/
def runAll (runs : List (Invocation × Bool)) : StateM FileTree (List Outcome) :=
  runs.mapM fun (i, terminal) => i.run files terminal

def treeAfter (t : FileTree) (runs : List (Invocation × Bool)) : FileTree :=
  ((runAll files runs).run t).2

theorem run_runAll_cons (i : Invocation) (terminal : Bool) (rest : List (Invocation × Bool))
    (t : FileTree) :
    (runAll files ((i, terminal) :: rest)).run t =
      let ran := (i.run files terminal).run t
      (ran.1 :: ((runAll files rest).run ran.2).1, treeAfter files ran.2 rest) := by
  rw [runAll, List.mapM_cons, StateT.run_bind]
  rfl

theorem treeAfter_cons (t : FileTree) (i : Invocation) (terminal : Bool)
    (rest : List (Invocation × Bool)) :
    treeAfter files t ((i, terminal) :: rest) =
      treeAfter files ((i.run files terminal).run t).2 rest := by
  rw [treeAfter, run_runAll_cons]

theorem treeAfter_append (t : FileTree) (before after : List (Invocation × Bool)) :
    treeAfter files t (before ++ after) = treeAfter files (treeAfter files t before) after := by
  induction before generalizing t with
  | nil => rfl
  | cons run rest ih =>
    rw [List.cons_append, treeAfter_cons, treeAfter_cons, ih]

theorem treeAfter_concat (t : FileTree) (before : List (Invocation × Bool)) (i : Invocation)
    (terminal : Bool) :
    treeAfter files t (before ++ [(i, terminal)]) =
      ((i.run files terminal).run (treeAfter files t before)).2 := by
  rw [treeAfter_append, treeAfter_cons]
  rfl

/-- The outcome of a run is that of its command in the tree before it. -/
theorem outcome_runAll (t : FileTree) (before : List (Invocation × Bool)) (i : Invocation)
    (terminal : Bool) (after : List (Invocation × Bool)) :
    ((runAll files (before ++ (i, terminal) :: after)).run t).1[before.length]? =
      some ((i.run files terminal).run (treeAfter files t before)).1 := by
  induction before generalizing t with
  | nil => rw [List.nil_append, run_runAll_cons]; rfl
  | cons run rest ih =>
    rw [List.cons_append, run_runAll_cons, treeAfter_cons]
    exact ih _

end

section
variable {files : FileAccess (StateM FileTree)} (hfiles : files.Faithful)
include hfiles

/-- What is found under a name is found there after all runs, or one of them, that could
find it still, writes to it. -/
theorem find_treeAfter (runs : List (Invocation × Bool)) {t : FileTree} {name : String}
    {node : Node} (h : t.find name = .ok node) :
    (treeAfter files t runs).find name = .ok node ∨
      ∃ before i terminal after, runs = before ++ (i, terminal) :: after ∧
        (treeAfter files t before).find name = .ok node ∧
        i.WritesTo (treeAfter files t before) (treeAfter files t (before ++ [(i, terminal)]))
          name := by
  induction runs generalizing t with
  | nil => exact .inl h
  | cons run rest ih =>
    obtain ⟨i, terminal⟩ := run
    rcases find_run hfiles i terminal h with hkept | hwrites
    · rw [treeAfter_cons]
      refine (ih hkept).imp_right ?_
      rintro ⟨before, j, other, after, rfl, hfound, hwrites⟩
      refine ⟨(i, terminal) :: before, j, other, after, rfl, ?_, ?_⟩
      · rw [treeAfter_cons]
        exact hfound
      · rw [List.cons_append, treeAfter_cons, treeAfter_cons]
        exact hwrites
    · exact .inr ⟨[], i, terminal, rest, rfl, h, hwrites⟩

end

/-- **What runs leave alone**, in any tree of files that are faithful. Every run in a row
spares what it has to, in the tree that those before it left. And whatever is found under
a name, of a configuration or of anything else, is found there in the end unless some run
writes to it. -/
theorem runAll_spares (files : FileAccess (StateM FileTree)) (hfiles : files.Faithful)
    (t : FileTree) (runs : List (Invocation × Bool)) :
    (∀ before i terminal after, runs = before ++ (i, terminal) :: after →
      ∃ outcome, ((runAll files runs).run t).1[before.length]? = some outcome ∧
        i.Spares (treeAfter files t before) outcome
          (treeAfter files t (before ++ [(i, terminal)]))) ∧
    ∀ name node, t.find name = .ok node →
      (treeAfter files t runs).find name = .ok node ∨
        ∃ before i terminal after, runs = before ++ (i, terminal) :: after ∧
          (treeAfter files t before).find name = .ok node ∧
          i.WritesTo (treeAfter files t before) (treeAfter files t (before ++ [(i, terminal)]))
            name := by
  refine ⟨?_, fun name node => find_treeAfter hfiles runs⟩
  rintro before i terminal after rfl
  refine ⟨_, outcome_runAll files t before i terminal after, ?_⟩
  rw [treeAfter_concat]
  exact run_spares hfiles i terminal _

/-- A configuration that `init` is not told to overwrite, and two runs of `set` on another
file, the first with a value that is not in quotes. -/
theorem runAll_spares_configuration :
    let i := fun command => ((⟨"ruleplan.toml", none, false, command⟩ : Invocation), true)
    let runs := [i (.init false), i (.set "doc.json" "a" "Ada"), i (.set "doc.json" "a" "1")]
    let t := FileTree.machine.put (.ofNames ["ruleplan.toml"]) (.file "kept".toUTF8)
    let after := fun n => treeAfter FileTree.access t (runs.take n)
    ((runAll FileTree.access runs).run t).1.map (·.status.code) = [0, 2, 0] ∧
      (after 3).find "ruleplan.toml" = .ok (.file "kept".toUTF8) ∧
      after 2 = after 1 ∧ (after 2).ChangesOnly (after 3) "doc.json" := by
  intro i runs t after
  have hcodes : ((runAll FileTree.access runs).run t).1.map (·.status.code) = [0, 2, 0] := by
    decide +kernel
  have hcode : ∀ (n : Nat) (outcome : Outcome), ((runAll FileTree.access runs).run t).1[n]? = some outcome →
      [0, 2, 0][n]? = some outcome.status.code := by
    intro n outcome h
    rw [← hcodes, List.getElem?_map, h]
    rfl
  have hdoc : ∀ t : FileTree, t.locate "doc.json" ≠ t.locate "ruleplan.toml" := fun t he => by
    have hplaces : Except.ok (Location.ofNames ["doc.json"]) =
        (.ok (.ofNames ["ruleplan.toml"]) : Except IoError Location) := he
    exact absurd hplaces (by decide)
  obtain ⟨hspared, hkept⟩ := runAll_spares FileTree.access FileTree.faithful_access t runs
  refine ⟨hcodes, ?found, ?refused, ?saved⟩
  case found =>
    rcases hkept "ruleplan.toml" (.file "kept".toUTF8) rfl with hfound |
      ⟨before, j, terminal, later, hruns, hfound, hwrites⟩
    · exact hfound
    · have hmem : (j, terminal) ∈ runs := hruns ▸ List.mem_append_right _ (List.mem_cons_self ..)
      have hrun : j.config = "ruleplan.toml" ∧
          (j.command = .init false ∨ ∃ value, j.command = .set "doc.json" "a" value) := by
        simp only [runs, i, List.mem_cons, Prod.mk.injEq, List.not_mem_nil, or_false] at hmem
        rcases hmem with ⟨rfl, -⟩ | ⟨rfl, -⟩ | ⟨rfl, -⟩
        · exact ⟨rfl, .inl rfl⟩
        · exact ⟨rfl, .inr ⟨_, rfl⟩⟩
        · exact ⟨rfl, .inr ⟨_, rfl⟩⟩
      obtain ⟨hconfig, hcommand⟩ := hrun
      rcases hwrites with ⟨hc, hnames⟩ | ⟨hc, -⟩ | ⟨-, hmissing, -⟩
      · rcases hcommand with hinit | ⟨value, hset⟩
        · cases hc.symm.trans hinit
        · cases hc.symm.trans hset
          exact absurd hnames (hdoc _)
      · rcases hcommand with hinit | ⟨value, hset⟩
        · cases hc.symm.trans hinit
        · cases hc.symm.trans hset
      · simp [hconfig, FileTree.kind?, hfound] at hmissing
  case refused =>
    obtain ⟨outcome, houtcome, hspares⟩ := hspared [i (.init false)] _ _ _ rfl
    have h := hcode 1 outcome houtcome
    exact hspares.refused _ _ _ rfl (by simp at h; omega)
  case saved =>
    obtain ⟨outcome, houtcome, hspares⟩ := hspared (runs.take 2) _ _ _ rfl
    have h := hcode 2 outcome houtcome
    exact hspares.saved _ _ _ rfl (by simp at h; omega)

end Invocation
end FieldRules
