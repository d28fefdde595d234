import Telemetry.Proofs.FileTree.Growth
import Telemetry.Proofs.Json.Ascii
import Telemetry.Proofs.Sink.Deed

/-!
# Journals

A journal is a file with the sinks that were built on its path. They are built, written to and
closed in any order, and several of them may be open at a time. Whatever fails in between, the file
holds what it held at first and then one line for each event that was written, in order.

Main statements: `serve_lines_write` and `openLines_cases` (what line sinks do to files),
`Follows.act` (what every act keeps) and `content_of_run`.
-/

namespace Telemetry

namespace Sink

/-! ## Lines -/

/-- One line: printable ASCII, then its end, and no other line end. -/
def IsLine (line : String) : Prop :=
  ∃ body, line = String.ofList (body ++ ['\n']) ∧ Text.Ascii body ∧ '\n' ∉ body

theorem isLine_of_lineText {event : Event} {line : String} (h : lineText event = .ok line) :
    IsLine line := by
  obtain ⟨extra, -, h⟩ := Fault.bind_eq_ok.mp h
  obtain ⟨body, hbody, h⟩ := Fault.bind_eq_ok.mp h
  cases h
  have hascii := Json.ascii_write _ body hbody
  exact ⟨body, rfl, hascii, hascii.no_line_end⟩

/-- What becomes of a write to a line sink. It is the line that fails first. -/
theorem serve_lines_write (path place : Path) (isOpen : Bool) (event : Event) (host : Host) :
    serve (.write event) (.lines path place isOpen) host = match lineText event with
      | .error fault => (.error fault, .lines path place isOpen, host)
      | .ok line =>
        if isOpen then
          (.ok (), .lines path place isOpen, { host with files := host.files.append place line })
        else (.error .fileClosed, .lines path place isOpen, host) := by
  simp only [serve, write, writeLine]
  cases lineText event with
  | error fault => rfl
  | ok line => cases isOpen <;> rfl

/-- Files grow, whatever a sink is asked for. -/
theorem grows_serve (request : Request) (sink : Sink) (host : Host) :
    host.files.Grows (serve request sink host).2.2.files := by
  obtain ⟨d, hd⟩ := exists_does request host.loggers sink
  rw [hd host rfl]
  show host.files.Grows (d.lines.foldl (fun files line => files.append line.1 line.2) host.files)
  generalize host.files = files
  induction d.lines generalizing files with
  | nil => exact .refl files
  | cons line rest ih => exact (files.grows_append line.1 line.2).trans (ih _)

/-! ## Building -/

/-- The specification of a line sink. -/
def linesSpec (path : String) : Value := .dict [("type", .str "jsonl"), ("path", .str path)]

/-- A line sink on a path: its directory is made, then its file is opened. -/
def openLines (path : Path) (files : FileTree) : Except Fault Sink × FileTree :=
  match files.makeDirectories path.dropLast with
  | (.error fault, made) => (.error fault, made)
  | (.ok (), made) => match made.openAppend path with
    | .error fault => (.error fault, made)
    | .ok (place, opened) => (.ok (lines path place true), opened)

theorem build_linesSpec (path : String) (host : Host) :
    build (linesSpec path) host =
      ((openLines (Path.parse path) host.files).1,
        { host with files := (openLines (Path.parse path) host.files).2 }) := rfl

/-- **A line sink is built or not**: in both cases directories may have been made, and if it is
built its file was opened. -/
theorem openLines_cases (path : Path) (files : FileTree) :
    (∃ fault made, files.AddsDirectories made ∧ openLines path files = (.error fault, made)) ∨
    ∃ made place opened, files.AddsDirectories made ∧
      made.openAppend path = .ok (place, opened) ∧
      openLines path files = (.ok (.lines path place true), opened) := by
  have hadds := files.addsDirectories_makeDirectories path.dropLast
  rw [openLines]
  cases hmade : files.makeDirectories path.dropLast with
  | mk result made =>
      rw [hmade] at hadds
      cases result with
      | error fault => exact .inl ⟨fault, made, hadds, rfl⟩
      | ok _ =>
          cases hopen : made.openAppend path with
          | error fault => exact .inl ⟨fault, made, hadds, by simp only [hopen]⟩
          | ok found => exact .inr ⟨made, found.1, found.2, hadds, hopen, by simp only [hopen]⟩

end Sink

/-! ## Journals -/

/-- The sinks that were built on one path, in the order in which they were built. -/
structure Journal where
  host : Host
  sinks : List Sink

namespace Journal

open Sink (Request)

/-- What is done with a journal. -/
inductive Act where
  /-- Another sink is built on the path. -/
  | build
  | ask (i : Nat) (request : Request)

/-- What an act returns, if there is a sink to ask, and the journal that it leaves. -/
def act (path : String) (j : Journal) : Act → Option (Except Fault Unit) × Journal
  | .build => match Sink.build (Sink.linesSpec path) j.host with
    | (.ok sink, host) => (some (.ok ()), ⟨host, j.sinks ++ [sink]⟩)
    | (.error fault, host) => (some (.error fault), ⟨host, j.sinks⟩)
  | .ask i request => match j.sinks[i]? with
    | none => (none, j)
    | some sink =>
      let (result, sink, host) := Sink.serve request sink j.host
      (some result, ⟨host, j.sinks.set i sink⟩)

/-- The line of an event, if it was written. -/
def line? (path : String) (j : Journal) : Act → Option String
  | .ask i (.write event) => match (j.act path (.ask i (.write event))).1 with
    | some (.ok ()) => (Sink.lineText event).toOption
    | _ => none
  | _ => none

def run (path : String) (j : Journal) : List Act → Journal
  | [] => j
  | a :: rest => (j.act path a).2.run path rest

/-- The lines of the events that were written, in order. -/
def written (path : String) (j : Journal) : List Act → List String
  | [] => []
  | a :: rest => (j.line? path a).toList ++ (j.act path a).2.written path rest

/-! ## Acts -/

/-- All sinks of a journal write to one place. -/
def WritesTo (j : Journal) (path place : Path) : Prop :=
  ∀ sink ∈ j.sinks, ∃ isOpen, sink = .lines path place isOpen

/-- **What a write to a journal does.** -/
theorem act_write {j : Journal} {i : Nat} {here place : Path} {isOpen : Bool}
    (hsink : j.sinks[i]? = some (.lines here place isOpen)) (path : String) (event : Event) :
    j.act path (.ask i (.write event)) = match Sink.lineText event with
      | .error fault => (some (.error fault), j)
      | .ok line =>
        if isOpen then
          (some (.ok ()), { j with host := { j.host with
            files := j.host.files.append place line } })
        else (some (.error .fileClosed), j) := by
  have hsame : j.sinks.set i (.lines here place isOpen) = j.sinks := by
    obtain ⟨hlt, hget⟩ := List.getElem?_eq_some_iff.mp hsink
    rw [← hget]
    exact List.set_getElem_self hlt
  simp only [act, hsink, Sink.serve_lines_write]
  cases Sink.lineText event with
  | error fault => simp only [hsame]
  | ok line => cases isOpen <;> simp only [hsame, if_true, if_false, Bool.false_eq_true]

/-- Files grow, whatever is done. -/
theorem grows_act (path : String) (j : Journal) (a : Act) :
    j.host.files.Grows (j.act path a).2.host.files := by
  cases a with
  | build =>
      rw [act, Sink.build_linesSpec]
      rcases Sink.openLines_cases (Path.parse path) j.host.files with
        ⟨fault, made, hadds, hbuild⟩ | ⟨made, place, opened, hadds, hopen, hbuild⟩
      · rw [hbuild]
        exact hadds.grows
      · rw [hbuild]
        exact hadds.grows.trans (FileTree.grows_openAppend hopen)
  | ask i request =>
      rw [act]
      split
      · exact .refl _
      · exact Sink.grows_serve request _ j.host

/-! ## What a journal follows -/

/-- A journal on a path that has had some lines written to it, since its files were as at the start:
either nothing has been built yet, or the file is where all sinks write to, and holds what it held
at the start and then those lines. -/
inductive Follows (path : Path) (start : FileTree) (j : Journal) (lines : List String) : Prop where
  | idle (hsinks : j.sinks = []) (hlines : lines = [])
      (hadds : start.AddsDirectories j.host.files)
  | kept {place : Path} (hsinks : j.WritesTo path place) (hnull : path.requireNoNull = .ok ())
      (hwalk : j.host.files.walk path =
        .found place (.file ((start.content? place).getD "" ++ String.join lines)))

variable {path : String} {start : FileTree} {j : Journal} {lines : List String}

theorem Follows.build (h : j.Follows (Path.parse path) start lines) :
    (j.act path .build).2.Follows (Path.parse path) start lines := by
  rw [act, Sink.build_linesSpec]
  rcases Sink.openLines_cases (Path.parse path) j.host.files with
    ⟨fault, made, hadds, hbuild⟩ | ⟨made, place, opened, hadds, hopen, hbuild⟩
  · rw [hbuild]
    cases h with
    | idle hsinks hlines hstart => exact .idle hsinks hlines (hstart.trans hadds)
    | kept hsinks hnull hwalk => exact .kept hsinks hnull (hadds.walk hwalk)
  · rw [hbuild]
    cases h with
    | idle hsinks hlines hstart =>
        obtain ⟨_, hnull, -⟩ := Fault.bind_eq_ok.mp hopen
        have hwalk := FileTree.walk_openAppend hopen
        rw [(hstart.trans hadds).content?] at hwalk
        have hone : WritesTo ⟨{ j.host with files := opened },
            j.sinks ++ [.lines (Path.parse path) place true]⟩ (Path.parse path) place := by
          rw [hsinks]
          intro sink hsink
          exact ⟨true, List.mem_singleton.mp hsink⟩
        exact .kept hone hnull (by simpa [hlines] using hwalk)
    | @kept held hsinks hnull hwalk =>
        -- the file is there, so it is found and not made
        have hmade := hadds.walk hwalk
        rcases FileTree.openAppend_cases hopen with ⟨content, hfound, rfl⟩ | ⟨hmissing, -⟩
        · rw [hmade] at hfound
          cases hfound
          refine .kept ?_ hnull hmade
          intro sink hsink
          rcases List.mem_append.mp hsink with hold | hnew
          · exact hsinks sink hold
          · exact ⟨true, List.mem_singleton.mp hnew⟩
        · rw [hmade] at hmissing
          cases hmissing

/-- Where there is a sink to ask, all write to one file. -/
theorem Follows.of_sink (h : j.Follows (Path.parse path) start lines) {i : Nat} {sink : Sink}
    (hsink : j.sinks[i]? = some sink) :
    ∃ place isOpen, sink = .lines (Path.parse path) place isOpen ∧
      j.WritesTo (Path.parse path) place ∧ (Path.parse path).requireNoNull = .ok () ∧
      j.host.files.walk (Path.parse path) =
        .found place (.file ((start.content? place).getD "" ++ String.join lines)) := by
  have hmem := List.mem_of_getElem? hsink
  cases h with
  | idle hsinks =>
      rw [hsinks] at hmem
      cases hmem
  | @kept place hsinks hnull hwalk =>
      obtain ⟨isOpen, hlines⟩ := hsinks sink hmem
      exact ⟨place, isOpen, hlines, hsinks, hnull, hwalk⟩

theorem Follows.write (h : j.Follows (Path.parse path) start lines) (i : Nat) (event : Event) :
    (j.act path (.ask i (.write event))).2.Follows (Path.parse path) start
      (lines ++ (j.line? path (.ask i (.write event))).toList) := by
  cases hsink : j.sinks[i]? with
  | none => simpa [line?, act, hsink] using h
  | some sink =>
      obtain ⟨place, isOpen, rfl, hsinks, hnull, hwalk⟩ := h.of_sink hsink
      rw [line?, act_write hsink]
      cases hline : Sink.lineText event with
      | error fault => simpa using h
      | ok line =>
          cases isOpen with
          | false => simpa using h
          | true =>
              have happended := FileTree.walk_append hwalk line
              have hjoin : String.join (lines ++ [line]) = String.join lines ++ line := by simp
              rw [String.append_assoc, ← hjoin] at happended
              exact .kept hsinks hnull happended

theorem Follows.close (h : j.Follows (Path.parse path) start lines) (i : Nat) :
    (j.act path (.ask i .close)).2.Follows (Path.parse path) start lines := by
  rw [act]
  cases hsink : j.sinks[i]? with
  | none => exact h
  | some sink =>
      obtain ⟨place, isOpen, rfl, hsinks, hnull, hwalk⟩ := h.of_sink hsink
      refine .kept ?_ hnull hwalk
      intro sink hmem
      rcases List.mem_or_eq_of_mem_set hmem with hold | rfl
      · exact hsinks sink hold
      · exact ⟨false, rfl⟩

/-- **Every act keeps to the file**: a journal follows what it followed, and the line that was
written, if any. -/
theorem Follows.act (h : j.Follows (Path.parse path) start lines) (a : Act) :
    (j.act path a).2.Follows (Path.parse path) start (lines ++ (j.line? path a).toList) := by
  cases a with
  | build => simpa [line?] using h.build
  | ask i request =>
      cases request with
      | write event => exact h.write i event
      | close => simpa [line?] using h.close i

theorem Follows.run (h : j.Follows (Path.parse path) start lines) (acts : List Act) :
    (j.run path acts).Follows (Path.parse path) start (lines ++ j.written path acts) := by
  induction acts generalizing j lines with
  | nil => simpa [written, Journal.run] using h
  | cons a rest ih =>
      rw [written, Journal.run, ← List.append_assoc]
      exact ih (h.act a)

/-- A line that was written is the line of an event. -/
theorem lineText_of_line? {a : Act} {line : String} (h : j.line? path a = some line) :
    ∃ event, Sink.lineText event = .ok line := by
  rw [line?.eq_def] at h
  split at h
  · next i event =>
    split at h
    · refine ⟨event, ?_⟩
      cases hline : Sink.lineText event with
      | error fault =>
          rw [hline] at h
          cases h
      | ok line =>
          rw [hline] at h
          cases h
          rfl
    · cases h
  · cases h

theorem isLine_of_written {line : String} {acts : List Act} (h : line ∈ j.written path acts) :
    Sink.IsLine line := by
  induction acts generalizing j with
  | nil => cases h
  | cons a rest ih =>
      rw [written, List.mem_append] at h
      rcases h with h | h
      · obtain ⟨event, hevent⟩ := lineText_of_line? (Option.mem_toList.mp h)
        exact Sink.isLine_of_lineText hevent
      · exact ih h

theorem grows_run (path : String) (j : Journal) (acts : List Act) :
    j.host.files.Grows (j.run path acts).host.files := by
  induction acts generalizing j with
  | nil => exact .refl _
  | cons a rest ih => exact (j.grows_act path a).trans (ih _)

/-- Once there is a sink, the file holds what was at its place at the start and then the lines. -/
theorem Follows.read_of_built (h : j.Follows (Path.parse path) start lines)
    (hbuilt : j.sinks ≠ []) :
    ∃ place, j.WritesTo (Path.parse path) place ∧ j.host.files.read (Path.parse path) =
      .ok ((start.content? place).getD "" ++ String.join lines) := by
  cases h with
  | idle hsinks => exact absurd hsinks hbuilt
  | @kept place hsinks hnull hwalk =>
      exact ⟨place, hsinks, FileTree.read_eq_ok_iff.mpr ⟨hnull, place, hwalk⟩⟩

/-- A file that could be read at the start holds what it held and then the lines. -/
theorem Follows.read_of_read (h : j.Follows (Path.parse path) start lines)
    (hgrows : start.Grows j.host.files) {initial : String}
    (hread : start.read (Path.parse path) = .ok initial) :
    j.host.files.read (Path.parse path) = .ok (initial ++ String.join lines) := by
  obtain ⟨hnull, place, hwalk⟩ := FileTree.read_eq_ok_iff.mp hread
  refine FileTree.read_eq_ok_iff.mpr ⟨hnull, place, ?_⟩
  cases h with
  | idle hsinks hlines hadds =>
      rw [hadds.walk hwalk, hlines]
      simp
  | kept _ _ hnow =>
      -- the walk ends where it ended at the start, so that is where the sinks write to
      obtain ⟨grown, hlater, -⟩ := hgrows.walk hwalk
      rw [hnow] at hlater
      cases hlater
      rw [hnow, FileTree.content?_eq_some_iff.mpr (FileTree.entry?_of_walk hwalk)]
      rfl

/-! ## Acts that fail -/

theorem WritesTo.write_eq_ok_iff {here place : Path} (h : j.WritesTo here place) (i : Nat)
    (event : Event) :
    (j.act path (.ask i (.write event))).1 = some (.ok ()) ↔
      (∃ there, j.sinks[i]? = some (.lines here there true)) ∧
        ∃ line, Sink.lineText event = .ok line := by
  cases hsink : j.sinks[i]? with
  | none => simp [Journal.act, hsink]
  | some sink =>
      obtain ⟨isOpen, rfl⟩ := h sink (List.mem_of_getElem? hsink)
      rw [act_write hsink]
      cases Sink.lineText event with
      | error fault => simp
      | ok line => cases isOpen <;> simp

/-- **A write that fails changes nothing.** -/
theorem WritesTo.write_error {here place : Path} (h : j.WritesTo here place) {i : Nat}
    {event : Event} {fault : Fault}
    (hfault : (j.act path (.ask i (.write event))).1 = some (.error fault)) :
    (j.act path (.ask i (.write event))).2 = j := by
  cases hsink : j.sinks[i]? with
  | none => simp [Journal.act, hsink]
  | some sink =>
      obtain ⟨isOpen, rfl⟩ := h sink (List.mem_of_getElem? hsink)
      rw [act_write hsink] at hfault ⊢
      cases hline : Sink.lineText event with
      | error fault => rfl
      | ok line =>
          cases isOpen with
          | false => rfl
          | true =>
              rw [hline] at hfault
              cases hfault

theorem WritesTo.close_ne_error {here place : Path} (h : j.WritesTo here place) (i : Nat)
    (fault : Fault) : (j.act path (.ask i .close)).1 ≠ some (.error fault) := by
  rw [Journal.act]
  cases hsink : j.sinks[i]? with
  | none => simp
  | some sink =>
      obtain ⟨isOpen, rfl⟩ := h sink (List.mem_of_getElem? hsink)
      simp [Sink.serve, Sink.close]

/-- An act that fails leaves what is in the files. -/
theorem WritesTo.content?_error {here place : Path} (h : j.WritesTo here place) {a : Act}
    {fault : Fault} (hfault : (j.act path a).1 = some (.error fault)) (file : Path) :
    (j.act path a).2.host.files.content? file = j.host.files.content? file := by
  cases a with
  | build =>
      rw [Journal.act, Sink.build_linesSpec] at hfault ⊢
      rcases Sink.openLines_cases (Path.parse path) j.host.files with
        ⟨_, made, hadds, hbuild⟩ | ⟨made, place, opened, -, -, hbuild⟩
      · rw [hbuild]
        exact hadds.content? file
      · rw [hbuild] at hfault
        cases hfault
  | ask i request =>
      cases request with
      | write event => rw [h.write_error hfault]
      | close => exact absurd hfault (h.close_ne_error i fault)

/-! ## Runs -/

/-- The sinks of a journal that started without any are line sinks on its path. -/
theorem Follows.writesTo (h : j.Follows (Path.parse path) start lines) :
    ∃ place, j.WritesTo (Path.parse path) place := by
  cases h with
  | idle hsinks =>
      refine ⟨[], ?_⟩
      intro sink hsink
      rw [hsinks] at hsink
      cases hsink
  | kept hsinks => exact ⟨_, hsinks⟩

/-- **What is in the file of a journal**, whatever was done on its path. A file that could be read
at the start holds what it held and then the lines that were written, in order; any other file does
so as soon as a sink was built, and holds nothing at first if it is new. Every line is one line of
printable ASCII. A write succeeds exactly if its sink is open and its event has a line; one that
fails changes nothing, so later writes go on as they would have. No act that fails changes what is
in a file, and no act at all does more than to make files longer at their ends. -/
theorem content_of_run (path : String) (host : Host) (acts : List Act) :
    let j := run path ⟨host, []⟩ acts
    let lines := written path ⟨host, []⟩ acts
    (∀ initial, host.files.read (Path.parse path) = .ok initial →
      j.host.files.read (Path.parse path) = .ok (initial ++ String.join lines)) ∧
    (j.sinks ≠ [] → ∃ place, j.WritesTo (Path.parse path) place ∧
      j.host.files.read (Path.parse path) =
        .ok ((host.files.content? place).getD "" ++ String.join lines)) ∧
    (∀ line ∈ lines, Sink.IsLine line) ∧
    (∀ i event, (j.act path (.ask i (.write event))).1 = some (.ok ()) ↔
      (∃ place, j.sinks[i]? = some (.lines (Path.parse path) place true)) ∧
        ∃ line, Sink.lineText event = .ok line) ∧
    (∀ i event fault, (j.act path (.ask i (.write event))).1 = some (.error fault) →
      (j.act path (.ask i (.write event))).2 = j) ∧
    (∀ a fault, (j.act path a).1 = some (.error fault) → ∀ file,
      (j.act path a).2.host.files.content? file = j.host.files.content? file) ∧
    ∀ a file content, j.host.files.content? file = some content →
      ∃ added, (j.act path a).2.host.files.content? file = some (content ++ added) := by
  intro j lines
  have hfollows : j.Follows (Path.parse path) host.files lines :=
    Follows.run (.idle rfl rfl (.refl host.files)) acts
  obtain ⟨place, hsinks⟩ := hfollows.writesTo
  refine ⟨?_, hfollows.read_of_built, fun _ => isLine_of_written, hsinks.write_eq_ok_iff, ?_, ?_,
    ?_⟩
  · intro initial hread
    exact hfollows.read_of_read (grows_run path ⟨host, []⟩ acts) hread
  · intro i event fault
    exact hsinks.write_error
  · intro a fault
    exact hsinks.content?_error
  · intro a file content
    exact (j.grows_act path a).content?

/-! ## A journal with two sinks -/

theorem parse_log : Path.parse "log" = ["log"] := by
  have hnames : "log".splitOn "/" = ["log"] := by
    rw [String.splitOn, if_neg (by decide)]
    -- three characters, none of which is a slash
    rw [String.splitOnAux, if_neg (by decide +kernel), if_neg (by decide +kernel)]
    rw [String.splitOnAux, if_neg (by decide +kernel), if_neg (by decide +kernel)]
    rw [String.splitOnAux, if_neg (by decide +kernel), if_neg (by decide +kernel)]
    rw [String.splitOnAux, if_pos (by decide +kernel)]
    decide +kernel
  rw [Path.parse, hnames]
  decide +kernel

/-- A host with a file that is not empty. -/
def logged : Host where
  loggers := { root := Level.warning }
  room := 0
  files := ⟨[(["log"], .file "old\n")]⟩

theorem build_logged (sinks : List Sink) :
    (act "log" ⟨logged, sinks⟩ .build).2 = ⟨logged, sinks ++ [.lines ["log"] ["log"] true]⟩ := by
  have hmade : logged.files.makeDirectories (List.dropLast ["log"]) = (.ok (), logged.files) := by
    rw [FileTree.makeDirectories]
    rfl
  have hopen : Sink.openLines ["log"] logged.files =
      (.ok (.lines ["log"] ["log"] true), logged.files) := by
    rw [Sink.openLines, hmade]
    rfl
  rw [act, Sink.build_linesSpec, parse_log, hopen]

/-- An event with a line. -/
def noted : Event where
  timestamp := .int 7
  scope := .str "jobs"
  metrics := [("done", .int 3)]

/-- Bytes have no form in JSON. -/
def unwritable : Event := { noted with extra := .dict [("raw", .bytes [1])] }

def notedLine : String :=
  "\x7b\"extra\": null, \"metrics\": \x7b\"done\": 3\x7d, \"process_id\": null, " ++
    "\"scope\": \"jobs\", \"step\": null, \"timestamp\": 7\x7d\n"

/-- Of four writes, one has no line and one is made when its sink is closed. -/
def notes : List Act :=
  [.build, .build, .ask 0 (.write noted), .ask 1 (.write unwritable), .ask 0 .close,
   .ask 0 (.write noted), .ask 1 (.write noted)]

/-- The file keeps what it held and gets the two other lines. -/
theorem content_of_notes :
    (run "log" ⟨logged, []⟩ notes).host.files.read (Path.parse "log") =
      .ok ("old\n" ++ String.join [notedLine, notedLine]) := by
  obtain ⟨hcontent, -⟩ := content_of_run "log" logged notes
  have hread : logged.files.read (Path.parse "log") = .ok "old\n" := by
    rw [parse_log]
    rfl
  have hwritten : written "log" ⟨logged, []⟩ notes = [notedLine, notedLine] := by
    rw [notes, written, written, build_logged, build_logged]
    decide +kernel
  rw [hcontent "old\n" hread, hwritten]

end Journal

end Telemetry
