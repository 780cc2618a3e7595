import Reshape.CommandLine.Program

/-!
# What a failing run leaves behind

The command `run` reads and computes first and writes last: the output, and then the manifest if it is
asked for one. So a run that fails has written nothing, unless all that it could not write is the
manifest.
-/

namespace Reshape.CommandLine

structure Finished where
  pipeline : Pipeline
  input : Value
  started : Int
  run : Run
  output : Collection

section Stages

variable {m : Type → Type} [Monad m] [Host m]

def compute (o : RunOptions) : Action m Finished := do
  let base ← Action.ofHost baseSettings
  let p ← loadPipeline base o.pipeline
  let input ← readInput o.input
  let started ← Action.ofHost Host.now
  match DateTime.ofMillis? started with
  | none => throw .clock
  | some now =>
    let run := (o.override p).run base now .checked input
    match run.output with
    | .error e => throw (.run e)
    | .ok output => return ⟨o.override p, input, started, run, output⟩

def writeManifest (path : String) (f : Finished) : Action m Unit := do
  let id ← Action.ofHost Host.newId
  let finished ← Action.ofHost Host.now
  let manifest := Manifest.ofRun f.pipeline f.input f.run f.output
  Action.ofFile (Host.writeFile path (manifestText id f.started finished manifest))

def deliver (o : RunOptions) (f : Finished) : Action m Unit := do
  writeOutput o f.output.toValue
  match o.manifest with
  | none => return ()
  | some path => writeManifest path f

theorem runCommand_eq [LawfulMonad m] (o : RunOptions) :
    runCommand (m := m) o = compute o >>= deliver o := by
  simp only [runCommand, compute, bind_assoc]
  refine bind_congr fun base => bind_congr fun p => bind_congr fun input =>
    bind_congr fun started => ?_
  cases DateTime.ofMillis? started with
  | none => exact (ExceptT.bind_throw _).symm
  | some now =>
      dsimp only
      cases ((o.override p).run base now .checked input).output with
      | error e => exact (ExceptT.bind_throw _).symm
      | ok output =>
          simp only [deliver, pure_bind]
          rfl

end Stages

namespace Action

variable {α β : Type}

abbrev on (x : Action (StateM Machine) α) (s : Machine) : Except Failure α × Machine :=
  x.run.run s

def Keeps (x : Action (StateM Machine) α) : Prop :=
  ∀ s, (x.on s).2 = s

variable {x : Action (StateM Machine) α} {f : α → Action (StateM Machine) β} {s t : Machine}

theorem bind_on : (x >>= f).on s = match x.on s with
    | (.ok a, t) => (f a).on t
    | (.error e, t) => (.error e, t) := by
  simp only [on, ExceptT.run_bind, StateT.run_bind]
  cases x.run.run s with
  | mk outcome t => cases outcome <;> rfl

theorem ofHost_on (x : StateM Machine α) (s : Machine) :
    (ofHost x).on s = (.ok (x.run s).1, (x.run s).2) := rfl

theorem keeps_ofHost {x : StateM Machine α} (h : ∀ s, (x.run s).2 = s) : (ofHost x).Keeps := h

theorem keeps_ofFile {x : StateM Machine (Except FileError α)} (h : ∀ s, (x.run s).2 = s) :
    (ofFile x).Keeps := h

theorem Keeps.bind (first : x.Keeps) (next : ∀ a, (f a).Keeps) : (x >>= f).Keeps := by
  intro s
  have same := first s
  cases result : x.on s with
  | mk outcome t =>
      rw [result] at same
      subst same
      cases outcome with
      | ok a =>
          rw [bind_on, result]
          exact next a t
      | error e => rw [bind_on, result]

end Action

theorem keeps_loadPipeline (base : Settings) (path : String) :
    (loadPipeline (m := StateM Machine) base path).Keeps := by
  refine (Action.keeps_ofFile fun _ => rfl).bind fun text => ?_
  cases Pipeline.read base text with
  | ok p => exact fun _ => rfl
  | error e => exact fun _ => rfl

theorem keeps_readInput (path : Option String) :
    (readInput (m := StateM Machine) path).Keeps := by
  refine (Action.keeps_ofFile fun _ => ?_).bind fun text => ?_
  · cases path <;> rfl
  · cases Json.read? text with
    | some v => exact fun _ => rfl
    | none => exact fun _ => rfl

theorem keeps_compute (o : RunOptions) : (compute (m := StateM Machine) o).Keeps := by
  refine (Action.keeps_ofHost fun _ => rfl).bind fun base => ?_
  refine (keeps_loadPipeline base o.pipeline).bind fun p => ?_
  refine (keeps_readInput o.input).bind fun input => ?_
  refine (Action.keeps_ofHost fun _ => rfl).bind fun started => ?_
  cases DateTime.ofMillis? started with
  | none => exact fun _ => rfl
  | some now =>
      dsimp only
      cases ((o.override p).run base now .checked input).output with
      | error e => exact fun _ => rfl
      | ok output => exact fun _ => rfl

namespace Machine

variable {p q : PathNames} {text path : String} {s t : Machine}

theorem mem_names_put {files : List (PathNames × String)} :
    q ∈ (put p text files).map Prod.fst ↔ q = p ∨ q ∈ files.map Prod.fst := by
  induction files with
  | nil => simp [put]
  | cons file rest ih =>
      obtain ⟨name, old⟩ := file
      by_cases same : name = p
      · simp [put, same]
      · simp only [put, if_neg same, List.map_cons, List.mem_cons, ih]
        exact or_left_comm

theorem lookup_put_of_ne {files : List (PathNames × String)} (h : q ≠ p) :
    (put p text files).lookup q = files.lookup q := by
  induction files with
  | nil => simp [put, List.lookup_cons, beq_eq_false_iff_ne.mpr h]
  | cons file rest ih =>
      obtain ⟨name, old⟩ := file
      by_cases same : name = p
      · simp [put, same, List.lookup_cons, beq_eq_false_iff_ne.mpr h]
      · simp only [put, if_neg same, List.lookup_cons, ih]

theorem isDirectory_iff :
    s.isDirectory p = true ↔
      p = [] ∨ ∃ name ∈ s.files.map Prod.fst, p <+: name ∧ p.length < name.length := by
  simp [isDirectory]

theorem write_eq_ok : s.write path text = .ok t ↔
    s.isDirectory (pathNames path) = false ∧ s.isDirectory (pathNames path).dropLast = true ∧
      { s with files := put (pathNames path) text s.files } = t := by
  simp only [write, Bool.and_eq_true, Bool.not_eq_true']
  split
  · rename_i h
    simp [h]
  · rename_i h
    simp only [reduceCtorEq, false_iff]
    exact fun ⟨file, folder, _⟩ => h ⟨file, folder⟩

theorem write_again {other : String} (written : s.write path text = .ok t)
    (same : pathNames other = pathNames path) (text' : String) :
    ∃ u, t.write other text' = .ok u := by
  obtain ⟨file, folder, rfl⟩ := write_eq_ok.mp written
  refine ⟨_, write_eq_ok.mpr ⟨?_, ?_, rfl⟩⟩
  · rw [same]
    rw [Bool.eq_false_iff, ne_eq, isDirectory_iff] at file ⊢
    rintro (empty | ⟨name, mem, below, longer⟩)
    · exact file (.inl empty)
    · rcases mem_names_put.mp mem with rfl | old
      · exact Nat.lt_irrefl _ longer
      · exact file (.inr ⟨name, old, below, longer⟩)
  · rw [same]
    rw [isDirectory_iff] at folder ⊢
    refine folder.imp_right fun ⟨name, mem, below⟩ => ⟨name, mem_names_put.mpr (.inr mem), below⟩

/-- Nothing can be written to a path: a directory stands there, or the one above it is missing. -/
def Refuses (s : Machine) (path : String) : Prop :=
  ∀ text, ∃ e, s.write path text = .error e

theorem refuses_of_error {e : FileError} (h : s.write path text = .error e) : s.Refuses path := by
  intro text'
  cases written : s.write path text' with
  | error e => exact ⟨e, rfl⟩
  | ok t =>
      obtain ⟨file, folder, -⟩ := write_eq_ok.mp written
      cases h.symm.trans (write_eq_ok.mpr ⟨file, folder, rfl⟩)

end Machine

theorem writeFile_on (path text : String) (s : Machine) :
    (Action.ofFile (Host.writeFile path text)).on s = match s.write path text with
      | .ok t => (.ok (), t)
      | .error e => (.error (.file e), s) := by
  show (do
    let outcome ← Host.writeFile path text
    return outcome.mapError Failure.file : StateM Machine (Except Failure Unit)).run s = _
  rw [StateT.run_bind]
  cases written : s.write path text with
  | ok t =>
      simp [Host.writeFile, written]
      rfl
  | error e =>
      simp [Host.writeFile, written]
      rfl

theorem writeOutput_on (o : RunOptions) (out : Value) (s : Machine) :
    (∃ t, (writeOutput o out).on s = (.ok (), t) ∧ ∀ path, t.Refuses path →
      t.files.lookup (pathNames path) = s.files.lookup (pathNames path)) ∨
    ∃ e, (writeOutput o out).on s = (.error (.file e), s) := by
  unfold writeOutput
  cases o.output with
  | none => exact .inl ⟨_, rfl, fun _ _ => rfl⟩
  | some file =>
      dsimp only
      rw [writeFile_on]
      split
      · rename_i t written
        refine .inl ⟨t, rfl, fun path refuses => ?_⟩
        have other : pathNames path ≠ pathNames file := by
          intro same
          obtain ⟨u, again⟩ := Machine.write_again written same ""
          obtain ⟨e, refused⟩ := refuses ""
          cases again.symm.trans refused
        obtain ⟨-, -, rfl⟩ := Machine.write_eq_ok.mp written
        exact Machine.lookup_put_of_ne other
      · exact .inr ⟨_, rfl⟩

theorem writeManifest_on (path : String) (f : Finished) (s : Machine) :
    (∃ t, (writeManifest path f).on s = (.ok (), t)) ∨
    ∃ e, (writeManifest path f).on s = (.error (.file e), s) ∧ s.Refuses path := by
  rw [writeManifest, Action.bind_on, Action.ofHost_on]
  dsimp only
  rw [Action.bind_on, Action.ofHost_on]
  dsimp only
  generalize manifestText _ _ _ _ = text
  rw [writeFile_on]
  split
  · exact .inl ⟨_, rfl⟩
  · rename_i e refused
    exact .inr ⟨e, rfl, Machine.refuses_of_error refused⟩

/-- How something that writes a manifest last, if it is asked for one, can end on a machine. -/
inductive Ends (part : RunOptions → Action (StateM Machine) Unit) (o : RunOptions) (s : Machine) :
    Prop
  | finished (t : Machine) (h : (part o).on s = (.ok (), t))
  | stopped (e : Failure) (h : (part o).on s = (.error e, s))
  /-- All is as it would be without a manifest, but for the failure. -/
  | unrecorded (path : String) (e : FileError) (t : Machine) (asked : o.manifest = some path)
      (whole : (part { o with manifest := none }).on s = (.ok (), t)) (refuses : t.Refuses path)
      (untouched : t.files.lookup (pathNames path) = s.files.lookup (pathNames path))
      (h : (part o).on s = (.error (.file e), t))

theorem deliver_ends (f : Finished) (o : RunOptions) (s : Machine) :
    Ends (fun o => deliver o f) o s := by
  rcases writeOutput_on o f.output.toValue s with ⟨t, written, others⟩ | ⟨e, failed⟩
  · have whole : (deliver { o with manifest := none } f).on s = (.ok (), t) := by
      have same : writeOutput { o with manifest := none } =
          writeOutput (m := StateM Machine) o := rfl
      rw [deliver, same, Action.bind_on, written]
      rfl
    cases asked : o.manifest with
    | none => exact .finished t (by rw [deliver, Action.bind_on, written, asked]; rfl)
    | some path =>
        have last : (deliver o f).on s = (writeManifest path f).on t := by
          rw [deliver, Action.bind_on, written, asked]
        rcases writeManifest_on path f t with ⟨u, done⟩ | ⟨e, failed, refuses⟩
        · exact .finished u (last.trans done)
        · exact .unrecorded path e t asked whole refuses (others path refuses) (last.trans failed)
  · exact .stopped (.file e) (by rw [deliver, Action.bind_on, failed])

theorem runCommand_ends (o : RunOptions) (s : Machine) : Ends runCommand o s := by
  have kept := keeps_compute o s
  cases computed : (compute o).on s with
  | mk outcome t =>
      rw [computed] at kept
      subst kept
      cases outcome with
      | error e => exact .stopped e (by rw [runCommand_eq, Action.bind_on, computed])
      | ok f =>
          -- what is computed does not depend on where the manifest goes
          have on (o' : RunOptions) (same : compute o' = compute (m := StateM Machine) o) :
              (runCommand o').on t = (deliver o' f).on t := by
            rw [runCommand_eq, same, Action.bind_on, computed]
          cases deliver_ends f o t with
          | finished u h => exact .finished u ((on o rfl).trans h)
          | stopped e h => exact .stopped e ((on o rfl).trans h)
          | unrecorded path e u asked whole refuses untouched h =>
              have complete := (on { o with manifest := none } rfl).trans whole
              exact .unrecorded path e u asked complete refuses untouched ((on o rfl).trans h)

namespace Machine

def launch (s : Machine) (args : List String) : UInt32 × Machine :=
  (program (m := StateM Machine) args).run s

def serve (s : Machine) (r : Request) : UInt32 × Machine :=
  (CommandLine.serve (m := StateM Machine) r).run s

variable {args : List String} {o : RunOptions}

theorem launch_eq {r : Request} (asked : Request.read args = some r) (s : Machine) :
    s.launch args = s.serve r := by
  rw [launch, program, asked, serve]

theorem serve_run (s : Machine) : s.serve (.run o) = match (runCommand o).on s with
    | (.ok (), t) => (0, t)
    | (.error e, t) =>
      (e.exitCode,
        { t with complained := t.complained ++ ("Error" ++ ": " ++ e.message ++ "\n") }) := by
  show (finish (m := StateM Machine) "Error" (runCommand o)).run s = _
  rw [finish, StateT.run_bind]
  cases result : (runCommand o).on s with
  | mk outcome t =>
      rw [Action.on] at result
      rw [result]
      cases outcome <;> rfl

/-- A run that fails leaves the machine as it was, up to what it complains about; unless all else went
well and nothing can be written to the path for the manifest. Then the machine is left as the same
run leaves it when it is asked for no manifest, and no file at that path has been touched. -/
theorem launch_failed (asked : Request.read args = some (.run o)) (s : Machine)
    (failed : (s.launch args).1 = 1) :
    let after := (s.launch args).2
    after = { s with complained := after.complained } ∨
      ∃ path, o.manifest = some path ∧
        let whole := s.serve (.run { o with manifest := none })
        whole.1 = 0 ∧ whole.2.Refuses path ∧
          after = { whole.2 with complained := after.complained } ∧
          after.files.lookup (pathNames path) = s.files.lookup (pathNames path) := by
  rw [launch_eq asked, serve_run] at failed ⊢
  rw [serve_run]
  cases runCommand_ends o s with
  | finished t h =>
      rw [h] at failed
      cases failed
  | stopped e h =>
      rw [h]
      exact .inl rfl
  | unrecorded path e t asked whole refuses untouched h =>
      rw [h, whole]
      exact .inr ⟨path, asked, rfl, refuses, rfl, untouched⟩

theorem launch_failed_below_output :
    let args := ["run", "-p", "p", "-o", "out", "--manifest", "out/m"]
    let o : RunOptions := { pipeline := "p", output := some "out", manifest := some "out/m" }
    let s : Machine := { files := [(["p"], "")], input := "\x7b\x7d" }
    Request.read args = some (.run o) ∧ (s.launch args).1 = 1 ∧
      (s.launch args).2.files = [(["p"], ""), (["out"], "\x7b\x7d\n")] ∧
      (s.serve (.run { o with manifest := none })).1 = 0 := by
  intro args o s
  have asked : Request.read args = some (.run o) := by decide +kernel
  have failed : (s.launch args).1 = 1 := by decide +kernel
  have files : (s.launch args).2.files = [(["p"], ""), (["out"], "\x7b\x7d\n")] := by decide +kernel
  refine ⟨asked, failed, files, ?_⟩
  rcases launch_failed asked s failed with kept | ⟨path, -, whole, -⟩
  · have same := congrArg Machine.files kept
    rw [files] at same
    cases same
  · exact whole

/-- A manifest that has no directory to be written into, behind an output that has been shown. -/
theorem launch_shows_output :
    let s : Machine := { files := [(["p"], "")], input := "\x7b\x7d" }
    let after := s.launch ["run", "-p", "p", "--manifest", "no/m"]
    after.1 = 1 ∧ s.printed = "" ∧ after.2.printed = "\x7b\x7d\n" := by
  intro s after
  have failed : after.1 = 1 := by decide +kernel
  have shown : after.2.printed = "\x7b\x7d\n" := by decide +kernel
  exact ⟨failed, rfl, shown⟩

end Machine

end Reshape.CommandLine
