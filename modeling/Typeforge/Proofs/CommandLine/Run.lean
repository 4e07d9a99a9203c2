import Typeforge.CommandLine.Run
import Typeforge.Proofs.Disk.Lawful
import Typeforge.Proofs.Plugin.Run

/-!
# Runs of the command

To generate, the command goes through its stages in turn: the project, the plugins, the document, the checks and the
turn of each plugin. Until it writes it only reads, so all that comes before is a function of what is read (`prepare`),
and a failure on the way leaves the disk as it was, however many files were produced by then. The files are written
when all are there, in the order of their plugins, until one is not taken.

* `prepare_ok_iff`, `prepare_error_iff`: what has to pass, and each way in which a stage fails;
* `execute_generate`: the command is `prepare` and then the writing;
* `run_generate`: how the command ends, and what the disk holds then.
-/

namespace Typeforge.CommandLine

open Schema

variable {read : String → Except FileError String} {order : Order} {project : Project} {plugins : List Plugin}
  {document : Document} {trouble : Trouble} {directory : String} {files : List File}

/-! ### The stages before writing -/

/-- The project that an order names, or the one without settings. -/
inductive Loads (read : String → Except FileError String) : Option String → Project → Prop
  | unnamed : Loads read none {}
  | named {path text : String} {project : Project} (readable : read path = .ok text)
    (parsed : Project.parse? text = some project) : Loads read (some path) project

/-- The plugins of the entries, each made with its options. -/
def Makes (entries : List PluginEntry) (plugins : List Plugin) : Prop :=
  List.Forall₂ (fun e p => Builtin.instantiate e.name e.value? = .ok p) entries plugins

/-- The first two stages have passed. -/
structure Equipped (read : String → Except FileError String) (order : Order) (project : Project)
    (plugins : List Plugin) : Prop where
  loaded : Loads read order.config project
  made : Makes (project.select order.plugins) plugins

/-- The document is read too. -/
structure Supplied (read : String → Except FileError String) (order : Order) (project : Project)
    (plugins : List Plugin) (document : Document) : Prop extends Equipped read order project plugins where
  decoded : ∃ text, read order.input = .ok text ∧ Document.parse? text = some document

/-- All stages have passed, and these are the files to write, in the order in which the plugins had their turns. -/
inductive Ready (read : String → Except FileError String) (order : Order) : String → List File → Prop
  | intro {project : Project} {plugins : List Plugin} {document : Document} {places : List Nat}
    {produced : List Produced} (supplied : Supplied read order project plugins document)
    (passed : checked (plugins.map Plugin.toDescriptor) = .ok places)
    (turns : Turns document [] (pluginsAt plugins places) produced) :
    Ready read order ((order.output <|> project.output).getD Project.defaultOutput) (produced.map (·.file))

/-- A stage fails, and those before it have passed. -/
inductive Refuses (read : String → Except FileError String) (order : Order) : Trouble → Prop
  | unreadableProject {path : String} {cause : FileError} (named : order.config = some path)
    (fails : read path = .error cause) : Refuses read order (.unreadable path cause)
  | badProject {path text : String} (named : order.config = some path) (readable : read path = .ok text)
    (fails : Project.parse? text = none) : Refuses read order .badProject
  /-- An unknown plugin, or one with options that it does not have. -/
  | badPlugin {project : Project} {before after : List PluginEntry} {entry : PluginEntry} {plugins : List Plugin}
    {failure : Failure} (loaded : Loads read order.config project)
    (split : project.select order.plugins = before ++ entry :: after) (made : Makes before plugins)
    (fails : Builtin.instantiate entry.name entry.value? = .error failure) : Refuses read order (.run failure)
  | unreadableDocument {project : Project} {plugins : List Plugin} {cause : FileError}
    (equipped : Equipped read order project plugins) (fails : read order.input = .error cause) :
    Refuses read order (.unreadable order.input cause)
  | badDocument {project : Project} {plugins : List Plugin} {text : String}
    (equipped : Equipped read order project plugins) (readable : read order.input = .ok text)
    (fails : Document.parse? text = none) : Refuses read order .badDocument
  /-- Two plugins of one output or of one name, or plugins in a circle. -/
  | badDescriptors {project : Project} {plugins : List Plugin} {document : Document} {failure : Failure}
    (supplied : Supplied read order project plugins document)
    (fails : checked (plugins.map Plugin.toDescriptor) = .error failure) : Refuses read order (.run failure)
  /-- A plugin fails at its turn, after the files of those before it were produced. -/
  | badTurn {project : Project} {plugins before after : List Plugin} {document : Document} {places : List Nat}
    {produced : List Produced} {plugin : Plugin} {failure : Failure}
    (supplied : Supplied read order project plugins document)
    (passed : checked (plugins.map Plugin.toDescriptor) = .ok places)
    (split : pluginsAt plugins places = before ++ plugin :: after) (turns : Turns document [] before produced)
    (fails : plugin.fill ⟨document, produced⟩ { id := plugin.output } = .error failure) :
    Refuses read order (.run failure)

/-! ### What they come to -/

/-- A text that is read, or the trouble that it is not. -/
def textOf (read : String → Except FileError String) (path : String) : Except Trouble String :=
  (read path).mapError (.unreadable path)

/-- What a text stands for, or the trouble that it stands for nothing. -/
def orTrouble {α : Type} (trouble : Trouble) : Option α → Except Trouble α
  | some a => .ok a
  | none => .error trouble

def projectOf (read : String → Except FileError String) : Option String → Except Trouble Project
  | none => .ok {}
  | some path => textOf read path >>= fun text => orTrouble .badProject (Project.parse? text)

/-- The stages before writing, by what is read. They end with the directory to write to and the files. -/
def prepare (read : String → Except FileError String) (order : Order) : Except Trouble (String × List File) := do
  let project ← projectOf read order.config
  let plugins ← ((project.select order.plugins).mapM fun e => Builtin.instantiate e.name e.value?).mapError .run
  let document ← orTrouble .badDocument (Document.parse? (← textOf read order.input))
  let produced ← (generate document plugins).mapError .run
  return ((order.output <|> project.output).getD Project.defaultOutput, produced.map (·.file))

section Prepare

variable {path text : String} {α ε ε' : Type} {r : Except ε α} {f : ε → ε'} {a : α}

theorem mapError_ok_iff : r.mapError f = .ok a ↔ r = .ok a := by
  cases r <;> simp [Except.mapError]

theorem mapError_error_iff {e' : ε'} : r.mapError f = .error e' ↔ ∃ e, r = .error e ∧ e' = f e := by
  cases r <;> simp [Except.mapError, eq_comm]

theorem orTrouble_ok_iff {o : Option α} : orTrouble trouble o = .ok a ↔ o = some a := by
  cases o <;> simp [orTrouble]

theorem orTrouble_error_iff {o : Option α} {trouble' : Trouble} :
    orTrouble trouble o = .error trouble' ↔ o = none ∧ trouble' = trouble := by
  cases o <;> simp [orTrouble, eq_comm]

theorem projectOf_ok_iff {config : Option String} :
    projectOf read config = .ok project ↔ Loads read config project := by
  cases config with
  | none =>
    constructor
    · intro h
      cases h
      exact .unnamed
    · rintro ⟨⟩
      rfl
  | some path =>
    rw [projectOf, bind_ok_iff]
    constructor
    · rintro ⟨text, htext, hparse⟩
      exact .named (mapError_ok_iff.1 htext) (orTrouble_ok_iff.1 hparse)
    · rintro ⟨⟩
      exact ⟨_, mapError_ok_iff.2 ‹_›, orTrouble_ok_iff.2 ‹_›⟩

theorem projectOf_error_iff {config : Option String} : projectOf read config = .error trouble ↔
    ∃ path, config = some path ∧ ((∃ cause, read path = .error cause ∧ trouble = .unreadable path cause) ∨
      ∃ text, read path = .ok text ∧ Project.parse? text = none ∧ trouble = .badProject) := by
  cases config with
  | none => simp [projectOf]
  | some path =>
    simp only [projectOf, textOf, bind_error_iff, mapError_error_iff, mapError_ok_iff, orTrouble_error_iff,
      Option.some.injEq, exists_eq_left']

theorem equipped_iff : Equipped read order project plugins ↔ projectOf read order.config = .ok project ∧
    (project.select order.plugins).mapM (fun e => Builtin.instantiate e.name e.value?) = .ok plugins := by
  rw [projectOf_ok_iff, mapM_ok_iff]
  exact ⟨fun h => ⟨h.loaded, h.made⟩, fun h => ⟨h.1, h.2⟩⟩

/-- Where the plugins are made, the document comes next, and then the run. -/
theorem prepare_of_equipped (h : Equipped read order project plugins) : prepare read order = do
    let document ← orTrouble .badDocument (Document.parse? (← textOf read order.input))
    let produced ← (generate document plugins).mapError .run
    return ((order.output <|> project.output).getD Project.defaultOutput, produced.map (·.file)) := by
  obtain ⟨hproject, hplugins⟩ := equipped_iff.1 h
  rw [prepare, hproject]
  change Except.mapError _ _ >>= _ = _
  rw [hplugins]
  rfl

theorem prepare_of_supplied (h : Supplied read order project plugins document) : prepare read order = do
    let produced ← (generate document plugins).mapError .run
    return ((order.output <|> project.output).getD Project.defaultOutput, produced.map (·.file)) := by
  obtain ⟨hequipped, text, hread, hparse⟩ := h
  rw [prepare_of_equipped hequipped, textOf, hread]
  change orTrouble _ (Document.parse? text) >>= _ = _
  rw [hparse]
  rfl

/-- **All stages pass.** -/
theorem prepare_ok_iff : prepare read order = .ok (directory, files) ↔ Ready read order directory files := by
  constructor
  · intro h
    obtain ⟨project, hproject, h⟩ := bind_ok_iff.1 h
    obtain ⟨plugins, hplugins, h⟩ := bind_ok_iff.1 h
    obtain ⟨text, hread, h⟩ := bind_ok_iff.1 h
    obtain ⟨document, hparse, h⟩ := bind_ok_iff.1 h
    obtain ⟨produced, hproduced, h⟩ := bind_ok_iff.1 h
    cases h
    obtain ⟨places, hpassed, hturns⟩ := generate_ok_iff.1 (mapError_ok_iff.1 hproduced)
    have hequipped := equipped_iff.2 ⟨hproject, mapError_ok_iff.1 hplugins⟩
    exact .intro ⟨hequipped, text, mapError_ok_iff.1 hread, orTrouble_ok_iff.1 hparse⟩ hpassed hturns
  · rintro ⟨hsupplied, hpassed, hturns⟩
    rw [prepare_of_supplied hsupplied, generate_ok_iff.2 ⟨_, hpassed, hturns⟩]
    rfl

/-- **A stage fails**, in one of these ways. -/
theorem prepare_error_iff : prepare read order = .error trouble ↔ Refuses read order trouble := by
  constructor
  · intro h
    rcases bind_error_iff.1 h with hproject | ⟨project, hproject, h⟩
    · obtain ⟨path, hpath, ⟨cause, hread, rfl⟩ | ⟨text, hread, hparse, rfl⟩⟩ := projectOf_error_iff.1 hproject
      · exact .unreadableProject hpath hread
      · exact .badProject hpath hread hparse
    rcases bind_error_iff.1 h with hplugins | ⟨plugins, hplugins, h⟩
    · obtain ⟨failure, hmade, rfl⟩ := mapError_error_iff.1 hplugins
      obtain ⟨before, entry, after, plugins, hsplit, hbefore, hfails⟩ := mapM_error_iff.1 hmade
      exact .badPlugin (projectOf_ok_iff.1 hproject) hsplit (mapM_ok_iff.1 hbefore) hfails
    have hequipped := equipped_iff.2 ⟨hproject, mapError_ok_iff.1 hplugins⟩
    rcases bind_error_iff.1 h with hread | ⟨text, hread, h⟩
    · obtain ⟨cause, hfails, rfl⟩ := mapError_error_iff.1 hread
      exact .unreadableDocument hequipped hfails
    rcases bind_error_iff.1 h with hparse | ⟨document, hparse, h⟩
    · obtain ⟨hfails, rfl⟩ := orTrouble_error_iff.1 hparse
      exact .badDocument hequipped (mapError_ok_iff.1 hread) hfails
    have hsupplied : Supplied read order project plugins document :=
      ⟨hequipped, text, mapError_ok_iff.1 hread, orTrouble_ok_iff.1 hparse⟩
    rcases bind_error_iff.1 h with hgenerate | ⟨produced, -, h⟩
    · obtain ⟨failure, hrun, rfl⟩ := mapError_error_iff.1 hgenerate
      rcases generate_error_iff.1 hrun with hfails | ⟨places, before, p, after, produced, hpassed, hsplit, hturns,
        hfails⟩
      · exact .badDescriptors hsupplied hfails
      · exact .badTurn hsupplied hpassed hsplit hturns hfails
    · cases h
  · intro h
    cases h with
    | unreadableProject named fails =>
      exact bind_error_iff.2 (.inl (projectOf_error_iff.2 ⟨_, named, .inl ⟨_, fails, rfl⟩⟩))
    | badProject named readable fails =>
      exact bind_error_iff.2 (.inl (projectOf_error_iff.2 ⟨_, named, .inr ⟨_, readable, fails, rfl⟩⟩))
    | badPlugin loaded split made fails =>
      have hfails := mapM_error_iff.2 ⟨_, _, _, _, split, mapM_ok_iff.2 made, fails⟩
      refine bind_error_iff.2 (.inr ⟨_, projectOf_ok_iff.2 loaded, bind_error_iff.2 (.inl ?_)⟩)
      exact mapError_error_iff.2 ⟨_, hfails, rfl⟩
    | unreadableDocument equipped fails =>
      rw [prepare_of_equipped equipped, textOf, fails]
      rfl
    | badDocument equipped readable fails =>
      rw [prepare_of_equipped equipped, textOf, readable]
      change orTrouble _ (Document.parse? _) >>= _ = _
      rw [fails]
      rfl
    | badDescriptors supplied fails =>
      rw [prepare_of_supplied supplied, generate_error_iff.2 (.inl fails)]
      rfl
    | badTurn supplied passed split turns fails =>
      rw [prepare_of_supplied supplied, generate_error_iff.2 (.inr ⟨_, _, _, _, _, passed, split, turns, fails⟩)]
      rfl

end Prepare

/-! ### The whole command -/

section Command

variable {σ P C : Type} {disk : Disk (StateM σ)} {place : σ → String → P} {found : σ → P → C} {content : String → C}
  {s t : σ} {outcome : Outcome}

def readsAt (disk : Disk (StateM σ)) (s : σ) (path : String) : Except FileError String := (disk.readText path s).1

/-- What a command leaves that fails: the code, and one line that is not on the standard output. -/
def failed (trouble : Trouble) : Outcome := { code := 1, stderr := ofLines [trouble.message] }

/-- How the command ends that carries out an order. -/
inductive Ending (disk : Disk (StateM σ)) (order : Order) (s : σ) : Outcome → σ → Prop
  /-- A stage before writing fails, and the disk is as it was. -/
  | refused {trouble : Trouble} (stage : Refuses (readsAt disk s) order trouble) :
    Ending disk order s (failed trouble) s
  /-- All files are there, and not all can be written. -/
  | unwritten {directory : String} {files : List File} {failure : Failure} {t : σ}
    (ready : Ready (readsAt disk s) order directory files) (writes : disk.Writes directory files s (.error failure) t) :
    Ending disk order s (failed (.run failure)) t
  | done {directory : String} {files : List File} {paths : List String} {t : σ}
    (ready : Ready (readsAt disk s) order directory files) (writes : disk.Writes directory files s (.ok paths) t) :
    Ending disk order s { code := 0, stdout := ofLines paths } t

section Reads

variable {α β γ : Type} {m : ExceptT Trouble (StateM σ) α} {f : α → ExceptT Trouble (StateM σ) β}

/-- Steps that leave the disk as it is pass on what they come to. If it is trouble, that is all there is. -/
theorem run_bind_of_kept {r : Except Trouble α} {k : α → Except Trouble γ}
    (finish : Except Trouble γ → Except Trouble β × σ)
    (htrouble : ∀ trouble, finish (.error trouble) = (.error trouble, s)) (hm : m.run.run s = (r, s))
    (hf : ∀ a, (f a).run.run s = finish (k a)) : (m >>= f).run.run s = finish (r >>= k) := by
  simp only [ExceptT.run_bind, StateT.run_bind]
  rw [hm]
  cases r with
  | error trouble => exact (htrouble trouble).symm
  | ok a => exact hf a

theorem run_ofRun (r : Except Failure α) (s : σ) :
    (ofRun r : ExceptT Trouble (StateM σ) α).run.run s = (r.mapError .run, s) := by
  cases r <;> rfl

theorem run_readText (hread : ∀ path s, (disk.readText path s).2 = s) (path : String) (s : σ) :
    (readText disk path).run.run s = (textOf (readsAt disk s) path, s) := by
  have hlift : (liftM (disk.readText path) : ExceptT Trouble (StateM σ) _).run.run s
      = (.ok (readsAt disk s path), s) := by
    change (Except.ok (readsAt disk s path), (disk.readText path s).2) = _
    rw [hread]
  refine run_bind_of_kept (·, s) (fun _ => rfl) hlift (k := fun r => r.mapError (.unreadable path)) fun r => ?_
  cases r <;> rfl

theorem run_loadProject (hread : ∀ path s, (disk.readText path s).2 = s) (config : Option String) (s : σ) :
    (loadProject disk config).run.run s = (projectOf (readsAt disk s) config, s) := by
  cases config with
  | none => rfl
  | some path =>
    refine run_bind_of_kept (·, s) (fun _ => rfl) (run_readText hread path s) fun text => ?_
    cases Project.parse? text <;> rfl

/-- What is left once the files are there, or are not to be had. -/
def finish (disk : Disk (StateM σ)) (s : σ) : Except Trouble (String × List File) → Except Trouble (List String) × σ
  | .error trouble => (.error trouble, s)
  | .ok (directory, files) =>
    ((disk.writeFiles directory files s).1.mapError .run, (disk.writeFiles directory files s).2)

theorem run_generateFiles (hread : ∀ path s, (disk.readText path s).2 = s) (order : Order) (s : σ) :
    (generateFiles disk order).run.run s = finish disk s (prepare (readsAt disk s) order) := by
  refine run_bind_of_kept _ (fun _ => rfl) (run_loadProject hread order.config s) fun project => ?_
  refine run_bind_of_kept _ (fun _ => rfl) (run_ofRun _ s) fun plugins => ?_
  refine run_bind_of_kept _ (fun _ => rfl) (run_readText hread order.input s) fun text => ?_
  cases Document.parse? text with
  | none => rfl
  | some document =>
    refine run_bind_of_kept _ (fun _ => rfl) (run_ofRun (generate document plugins) s) fun produced => ?_
    exact run_ofRun _ (disk.writeFiles _ _ s).2

end Reads

/-- **The command is its stages and then the writing.** -/
theorem execute_generate (hread : ∀ path s, (disk.readText path s).2 = s) (order : Order) (s : σ) :
    execute disk (.generate order) s = match finish disk s (prepare (readsAt disk s) order) with
      | (.error trouble, t) => (failed trouble, t)
      | (.ok paths, t) => ({ code := 0, stdout := ofLines paths }, t) := by
  rw [← run_generateFiles hread]
  unfold execute
  change StateT.bind _ _ s = _
  simp only [StateT.bind, StateT.run]
  rcases (generateFiles disk order).run s with ⟨trouble | paths, t⟩
  · rfl
  · rfl

/-- **The ways in which the command ends.** -/
theorem execute_generate_iff (hread : ∀ path s, (disk.readText path s).2 = s) :
    execute disk (.generate order) s = (outcome, t) ↔ Ending disk order s outcome t := by
  rw [execute_generate hread]
  constructor
  · intro h
    cases hprepare : prepare (readsAt disk s) order with
    | error trouble =>
      rw [hprepare] at h
      cases h
      exact .refused (prepare_error_iff.1 hprepare)
    | ok target =>
      obtain ⟨directory, files⟩ := target
      have hready := prepare_ok_iff.1 hprepare
      rw [hprepare, finish] at h
      rcases hwrite : disk.writeFiles directory files s with ⟨failure | paths, u⟩
      · rw [hwrite] at h
        cases h
        exact .unwritten hready (Disk.writeFiles_iff.1 hwrite)
      · rw [hwrite] at h
        cases h
        exact .done hready (Disk.writeFiles_iff.1 hwrite)
  · intro h
    cases h with
    | refused stage => rw [prepare_error_iff.2 stage]; rfl
    | unwritten ready writes => rw [prepare_ok_iff.2 ready, finish, Disk.writeFiles_iff.2 writes]; rfl
    | done ready writes => rw [prepare_ok_iff.2 ready, finish, Disk.writeFiles_iff.2 writes]; rfl

/-- How a run with these arguments ends on a disk, and what the places of the disk hold then. -/
structure EndsInTurn [DecidableEq P] (disk : Disk (StateM σ)) (place : σ → String → P) (found : σ → P → C)
    (content : String → C) (args : List String) (order : Order) : Prop where
  /-- The run goes just the way that its stages and the steps of the writing go. -/
  ends_iff : ∀ s outcome t, run disk args s = (outcome, t) ↔ Ending disk order s outcome t
  /-- Where there is no directory to write to, all files are as they were. -/
  unmade : ∀ s t directory cause, disk.createDirectories directory s = (.error cause, t) → found t = found s
  /-- Where the file `f` is not taken, those before it stand whole where they lead, and all other places hold what they
  held as the run began, but for the one that `f` leads to. -/
  stopped : ∀ s u v t directory before (f : File) cause, disk.createDirectories directory s = (.ok (), u) →
    disk.InTurn directory before u v → disk.writeText (Path.join directory f.path) f.text v = (.error cause, t) →
    ∀ l, l ≠ place s (Path.join directory f.path) →
      found t l = Disk.standing (place s) content directory before l (found s l)
  /-- Where all files are taken, all stand whole where they lead. -/
  done : ∀ s u t directory files, disk.createDirectories directory s = (.ok (), u) → disk.InTurn directory files u t →
    ∀ l, found t l = Disk.standing (place s) content directory files l (found s l)

/-- **The command writes nothing before all files are there**, and then one file after the other, so long as the disk
takes them. -/
theorem run_generate [DecidableEq P] (hdisk : Disk.Lawful disk place found content) {args : List String}
    (hargs : parse? args = some (.generate order)) : EndsInTurn disk place found content args order where
  ends_iff s outcome t := by
    rw [run, hargs]
    exact execute_generate_iff hdisk.read
  unmade s t directory cause hmake := by
    have hfound := hdisk.made directory s
    rwa [hmake] at hfound
  stopped s u v t directory before f cause hmake hturns hfails l hl := by
    obtain ⟨hplace, hfound⟩ := hdisk.of_made hmake
    rw [Disk.standing_of_stopped hdisk hturns hfails l (hplace ▸ hl), hplace, hfound]
  done s u t directory files hmake hturns l := by
    obtain ⟨hplace, hfound⟩ := hdisk.of_made hmake
    rw [(Disk.standing_of_inTurn hdisk hturns).2, hplace, hfound]

end Command

/-! ### A directory in the way -/

section Blocked

open Memory

/-- A disk on which the types cannot be written, as a directory has their name. -/
def blocked : Tree :=
  ⟨.directory [("ir.json", .file (some "{}")), ("generated", .directory [("types.ts", .directory [])])], []⟩

def validatorsFirst : List String := ["generate", "-i", "ir.json", "-p", "valibot", "-p", "typescript"]

/-- The validators come first and are written whole. -/
theorem blocked_ends : ∃ order, parse? validatorsFirst = some (.generate order) ∧
    EndsInTurn disk (fun t path => locate t.here path) Tree.fileAt? (some ∘ some) validatorsFirst order ∧
    ∃ outcome t, run disk validatorsFirst blocked = (outcome, t) ∧ outcome.code = 1 ∧ outcome.stdout = "" ∧
      outcome.stderr = "failed to write generated/types.ts: Is a directory (os error 21)\n" ∧
      t.fileAt? ["generated", "valibot.ts"] = some (some "import * as v from \"valibot\";\n\n") ∧
      t.fileAt? ["generated", "types.ts"] = none := by
  have hargs : parse? validatorsFirst
      = some (.generate { input := "ir.json", plugins := ["valibot", "typescript"] }) := by
    rfl
  refine ⟨_, hargs, run_generate lawful_disk hargs, _, _, rfl, ?_⟩
  decide +kernel

end Blocked

end Typeforge.CommandLine
