import Mathlib.Data.List.Induction
import Mathlib.Tactic.Lemma
import Mathlib.Tactic.SplitIfs
import TextSplit.Journal
import TextSplit.Proofs.WrittenForm

/-!
# What the history of a journal says about it

A journal keeps two things apart: its handlers, and whether it counts as configured.  They are changed by
requests, which may be met, ignored or refused, and by being told to forget.  This file reads both off the
calls that have been made and the answers that were given.

* `Level.IsNamedBy`, `LogRequest.Describes` — the handlers that a request describes;
  `LogRequest.Describes.unique` — there is one such list at most.
* `LogRequest.describes_of_install` — what is installed is what was described.
* `Journal.Call`, `Journal.Event`, `Journal.history` — calls in any order, with their answers.
* `Journal.Call.run_cases` — a call is a request that is met, or the handlers stay.
* `Journal.Since` — something has happened, and nothing of another kind after it.
* **`Journal.history_law`** — the flag and the handlers after any history.
-/

namespace TextSplit

/-! ## What a request describes -/

namespace Level

/-- A value is a name of a level, in any case. -/
def IsNamedBy (level : Level) (given : Value) : Prop :=
  ∃ name, given = .text name ∧ (capitals name, level) ∈ named

/-- Names of levels are in capitals, and no two levels have one in common. -/
lemma named_unique : ∀ p ∈ named, capitals p.1 = p.1 ∧ ∀ q ∈ named, p.1 = q.1 → p.2 = q.2 := by
  decide +kernel

lemma IsNamedBy.unique {level other : Level} {given : Value} (h : level.IsNamedBy given)
    (hother : other.IsNamedBy given) : level = other := by
  obtain ⟨name, rfl, hname⟩ := h
  obtain ⟨_, heq, hother⟩ := hother
  obtain rfl := Value.text.inj heq
  exact (named_unique _ hname).2 _ hother rfl

end Level

namespace LogRequest

/-- The handlers that a request describes: one for the console, and one for a file if a file is named. -/
inductive Describes (r : LogRequest) : List Handler → Prop
  | console {level : Level} {template : List Template.Piece} (hfile : r.fileName.isTruthy = false)
      (hlevel : level.IsNamedBy r.consoleLevel) (htemplate : r.template = .ok template) :
      Describes r [.console level]
  | withFile {level fileLevel : Level} {path : Path} {template : List Template.Piece}
      (hfile : r.fileName.isTruthy = true) (hlevel : level.IsNamedBy r.consoleLevel)
      (hfileLevel : fileLevel.IsNamedBy r.fileLevel) (hpath : r.path? = .ok (some path))
      (htemplate : r.template = .ok template) :
      Describes r [.console level, .file fileLevel path template]

/-- There is at most one list of handlers that a request describes. -/
lemma Describes.unique {r : LogRequest} {handlers others : List Handler} (h : r.Describes handlers)
    (hothers : r.Describes others) : handlers = others := by
  cases h with
  | console hfile hlevel =>
      cases hothers with
      | console _ hlevel' => rw [hlevel.unique hlevel']
      | withFile hfile' => exact absurd (hfile.symm.trans hfile') (by simp)
  | withFile hfile hlevel hfileLevel hpath htemplate =>
      cases hothers with
      | console hfile' => exact absurd (hfile.symm.trans hfile') (by simp)
      | withFile _ hlevel' hfileLevel' hpath' htemplate' =>
          obtain rfl := Option.some.inj (Except.ok.inj (hpath.symm.trans hpath'))
          obtain rfl := Except.ok.inj (htemplate.symm.trans htemplate')
          rw [hlevel.unique hlevel', hfileLevel.unique hfileLevel']

/-- **What reading a level can do.**  It gives the level that the value names, or refuses the value. -/
lemma levelOf_cases (option : String) (given : Value) :
    (∃ level, level.IsNamedBy given ∧ levelOf option given = .ok level)
      ∨ ((∀ level, ¬ Level.IsNamedBy level given)
        ∧ levelOf option given = Fault.refuse (.levelUnknown option given)) := by
  cases given with
  | text name =>
      cases hfind : Level.find? name with
      | none =>
          refine Or.inr ⟨?_, by rw [levelOf, Level.check, hfind]; rfl⟩
          rintro level ⟨_, heq, hname⟩
          obtain rfl := Value.text.inj heq
          exact absurd (List.lookup_eq_none_iff.1 hfind _ hname) (by simp)
      | some level =>
          obtain ⟨before, after, hnamed, -⟩ := List.lookup_eq_some_iff.1 hfind
          have hname : (Level.capitals name, level) ∈ Level.named := by simp [hnamed]
          -- the name is looked up once more, in capitals
          have hagain : Level.find? (Level.capitals name) = some level := by
            rw [Level.find?, (Level.named_unique _ hname).1]
            exact hfind
          refine Or.inl ⟨level, ⟨name, rfl, hname⟩, ?_⟩
          rw [levelOf, Level.check, hfind]
          show Except.ok ((Level.find? (Level.capitals name)).getD .notSet) = _
          rw [hagain]
          rfl
  | _ =>
      refine Or.inr ⟨?_, rfl⟩
      rintro level ⟨name, heq, -⟩
      exact absurd heq (by simp)

lemma isNamedBy_of_levelOf {option : String} {given : Value} {level : Level}
    (h : levelOf option given = .ok level) : level.IsNamedBy given := by
  rcases levelOf_cases option given with ⟨other, hother, hlevel⟩ | ⟨-, hlevel⟩
  · obtain rfl := Except.ok.inj (hlevel.symm.trans h)
    exact hother
  · exact absurd (hlevel.symm.trans h) (by simp [Fault.refuse])

lemma levelOf_of_isNamedBy {option : String} {given : Value} {level : Level}
    (h : level.IsNamedBy given) : levelOf option given = .ok level := by
  rcases levelOf_cases option given with ⟨other, hother, hlevel⟩ | ⟨hnone, -⟩
  · rw [hlevel, hother.unique h]
  · exact absurd h (hnone level)

/-- There is a path exactly if a file is named. -/
lemma isTruthy_of_path? {r : LogRequest} {path? : Option Path} (h : r.path? = .ok path?) :
    r.fileName.isTruthy = path?.isSome := by
  unfold LogRequest.path? at h
  split_ifs at h with htruthy
  · have hbelow : ∃ dir, (do let name ← pathOf r.fileName; return some (dir ++ name)) = .ok path? := by
      dsimp only at h
      split at h
      · obtain ⟨dir, -, h⟩ := bind_eq_ok_iff.1 h
        exact ⟨dir, h⟩
      · obtain ⟨dir, -, h⟩ := bind_eq_ok_iff.1 h
        exact ⟨dir, h⟩
    obtain ⟨dir, hbelow⟩ := hbelow
    obtain ⟨name, -, hbelow⟩ := bind_eq_ok_iff.1 hbelow
    obtain rfl := Except.ok.inj hbelow
    exact htruthy
  · obtain rfl := Except.ok.inj h
    simpa using htruthy

/-- **What is installed is what was described.** -/
lemma describes_of_install {r : LogRequest} {f g : Folder} {handlers : List Handler}
    (h : r.install f = (.ok handlers, g)) : r.Describes handlers := by
  unfold install at h
  split at h
  · exact absurd h (by simp)
  · exact absurd h (by simp)
  · rename_i level hlevel hpath
    obtain ⟨hhandlers, -⟩ := Prod.mk.inj h
    obtain ⟨template, htemplate, rfl⟩ := map_eq_ok_iff.1 hhandlers
    exact .console (isTruthy_of_path? hpath) (isNamedBy_of_levelOf hlevel) htemplate
  · rename_i level path hlevel hpath
    split at h
    · exact absurd h (by simp)
    · dsimp only at h
      split at h
      · exact absurd h (by simp)
      · rename_i hopened
        obtain ⟨fileLevel, hfileLevel, hopened⟩ := bind_eq_ok_iff.1 hopened
        obtain ⟨template, htemplate, hopened⟩ := bind_eq_ok_iff.1 hopened
        obtain ⟨folder, -, hopened⟩ := bind_eq_ok_iff.1 hopened
        cases hopened
        cases h
        exact .withFile (isTruthy_of_path? hpath) (isNamedBy_of_levelOf hlevel)
          (isNamedBy_of_levelOf hfileLevel) hpath htemplate

/-- A level that a request needs is unknown: that of the console, or that of the file if one is named. -/
def NamesUnknownLevel (r : LogRequest) : Prop :=
  (∀ level, ¬ Level.IsNamedBy level r.consoleLevel)
    ∨ r.fileName.isTruthy = true ∧ ∀ level, ¬ Level.IsNamedBy level r.fileLevel

/-- The file that a request names can be opened, its directory made if need be. -/
def Opens (r : LogRequest) (f : Folder) : Prop :=
  ∃ found, r.path? = .ok found
    ∧ ∀ path ∈ found, ∃ g h, withDirectory f path.parent = .ok g ∧ withFile g path = .ok h

variable {r : LogRequest} {f : Folder}

/-- **What is described is installed**, if the file can be opened. -/
lemma install_of_describes {handlers : List Handler} (hdescribes : r.Describes handlers)
    (hopens : r.Opens f) : ∃ g, r.install f = (.ok handlers, g) := by
  obtain ⟨found, hpath, hfile⟩ := hopens
  cases hdescribes with
  | console hnone hlevel htemplate =>
      obtain rfl : found = none := by simpa [hnone] using isTruthy_of_path? hpath
      exact ⟨f, by simp only [install, levelOf_of_isNamedBy hlevel, hpath, htemplate]; rfl⟩
  | withFile hsome hlevel hfileLevel hpath' htemplate =>
      obtain rfl := Except.ok.inj (hpath.symm.trans hpath')
      obtain ⟨g, h, hdirectory, hopened⟩ := hfile _ rfl
      refine ⟨h, ?_⟩
      simp only [install, levelOf_of_isNamedBy hlevel, hpath, hdirectory, levelOf_of_isNamedBy hfileLevel,
        htemplate, hopened, bind_pure_comp]
      rfl

/-- **An unknown level is refused**, whatever else a request says. -/
lemma install_of_namesUnknownLevel (hunknown : r.NamesUnknownLevel) (hopens : r.Opens f) :
    ∃ option given, (r.install f).1 = Fault.refuse (.levelUnknown option given) := by
  obtain ⟨found, hpath, hfile⟩ := hopens
  unfold install
  rcases levelOf_cases "console_level" r.consoleLevel with ⟨level, hlevel, hconsole⟩ | ⟨-, hconsole⟩
  · obtain ⟨hsome, hfileUnknown⟩ := hunknown.resolve_left fun h => h level hlevel
    obtain ⟨path, rfl⟩ := Option.isSome_iff_exists.1 ((isTruthy_of_path? hpath).symm.trans hsome)
    obtain ⟨g, h, hdirectory, -⟩ := hfile path rfl
    rcases levelOf_cases "file_level" r.fileLevel with ⟨fileLevel, hfileLevel, -⟩ | ⟨-, hrefused⟩
    · exact absurd hfileLevel (hfileUnknown fileLevel)
    · exact ⟨_, _, by rw [hconsole, hpath]; simp only [hdirectory, hrefused]; rfl⟩
  · exact ⟨_, _, by rw [hconsole]; rfl⟩

end LogRequest

/-! ## Calls and their answers -/

namespace Journal

/-- What can be asked of a journal. -/
inductive Call where
  | configure (r : LogRequest)
  | apply (d : LogDraft)
  | reset
  /-- A note is handed over. -/
  | note (n : Note)

/-- The request that a call makes, if it makes one. -/
def Call.request? : Call → Option LogRequest
  | .configure r => some r
  | .apply d => some (.ofDraft d)
  | .reset | .note _ => none

/-- What a call answers, and the journal after it.  Handlers are installed exactly if the answer is true. -/
def Call.run (now : String) (j : Journal) : Call → Except Fault Bool × Journal
  | .configure r => j.configure now r
  | .apply d => j.apply now d
  | .reset => (.ok false, j.reset)
  | .note n => (.ok false, j.log now n)

lemma log_eq (now : String) (n : Note) (j : Journal) : ∃ f, j.log now n = { j with folder := f } := by
  rw [log]
  split_ifs
  · exact ⟨_, rfl⟩
  · exact ⟨j.folder, rfl⟩

/-- **What a request can do.**  It is met, and then what it describes is installed; or nothing but files and
directories may have changed. -/
lemma configure_cases (now : String) (r : LogRequest) (j : Journal) :
    (∃ handlers f, r.Describes handlers ∧ j.configure now r = (.ok true, ⟨true, handlers, f⟩))
      ∨ (j.configure now r).1 ≠ .ok true ∧ ∃ f, (j.configure now r).2 = { j with folder := f } := by
  rw [configure]
  split_ifs
  · exact Or.inr ⟨by simp, log_eq now ignoredNote j⟩
  · cases hinstall : r.install j.folder with
    | mk answer g =>
        cases answer with
        | error fault => exact Or.inr ⟨by simp, g, rfl⟩
        | ok handlers =>
            obtain ⟨f, hf⟩ := log_eq now (installedNote r) ⟨true, handlers, g⟩
            exact Or.inl ⟨handlers, f, LogRequest.describes_of_install hinstall, congrArg (Prod.mk _) hf⟩

/-- **What a call can do.**  It makes a request that is met, and then what this describes is installed; or it
leaves handlers and flag alone; or it tells the journal to forget, which takes back the flag alone. -/
lemma Call.run_cases (now : String) (j : Journal) (call : Call) :
    (∃ r handlers f, call.request? = some r ∧ r.Describes handlers
        ∧ call.run now j = (.ok true, ⟨true, handlers, f⟩))
      ∨ (call ≠ .reset ∧ (call.run now j).1 ≠ .ok true ∧ ∃ f, (call.run now j).2 = { j with folder := f })
      ∨ call = .reset ∧ call.run now j = (.ok false, { j with configured := false }) := by
  cases call with
  | configure r =>
      rcases configure_cases now r j with ⟨handlers, f, hr, hmet⟩ | hkept
      · exact Or.inl ⟨r, handlers, f, rfl, hr, hmet⟩
      · exact Or.inr (Or.inl ⟨by simp, hkept⟩)
  | apply d =>
      rw [run, Journal.apply]
      split_ifs
      · rcases configure_cases now (.ofDraft d) j with ⟨handlers, f, hr, hmet⟩ | hkept
        · exact Or.inl ⟨_, handlers, f, rfl, hr, hmet⟩
        · exact Or.inr (Or.inl ⟨by simp, hkept⟩)
      · exact Or.inr (Or.inl ⟨by simp, by simp, j.folder, rfl⟩)
  | reset => exact Or.inr (Or.inr ⟨rfl, rfl⟩)
  | note n => exact Or.inr (Or.inl ⟨by simp, by simp [run], log_eq now n j⟩)

/-- A call that has been made, and its answer. -/
structure Event where
  call : Call
  answer : Except Fault Bool

/-- A call after which handlers have been installed. -/
def Event.IsMet (e : Event) : Prop := e.answer = .ok true

/-- A call that tells the journal to forget that it was configured. -/
def Event.IsReset (e : Event) : Prop := e.call = .reset

/-- Calls that have been made, and the journal after them. -/
structure History where
  events : List Event
  journal : Journal

/-- One more call, at some time. -/
def History.add (h : History) (entry : String × Call) : History :=
  ⟨h.events ++ [⟨entry.2, (entry.2.run entry.1 h.journal).1⟩], (entry.2.run entry.1 h.journal).2⟩

/-- Calls in order, from the start on. -/
def history (f : Folder) (calls : List (String × Call)) : History :=
  calls.foldl History.add ⟨[], start f⟩

lemma history_concat (f : Folder) (calls : List (String × Call)) (entry : String × Call) :
    history f (calls ++ [entry]) = (history f calls).add entry := by
  rw [history, List.foldl_append]
  rfl

/-- **What one more call changes.**  If it is met, the flag is set and the handlers are those it describes.
Otherwise the handlers stay, and so does the flag unless the journal is told to forget. -/
lemma History.add_cases (h : History) (entry : String × Call) :
    ∃ e, (h.add entry).events = h.events ++ [e]
      ∧ ((e.IsMet ∧ (h.add entry).journal.configured = true
          ∧ ∃ r, e.call.request? = some r ∧ r.Describes (h.add entry).journal.handlers)
        ∨ (¬ e.IsMet ∧ (h.add entry).journal.handlers = h.journal.handlers
          ∧ (e.IsReset ∧ (h.add entry).journal.configured = false
            ∨ ¬ e.IsReset ∧ (h.add entry).journal.configured = h.journal.configured))) := by
  refine ⟨⟨entry.2, (entry.2.run entry.1 h.journal).1⟩, rfl, ?_⟩
  rw [add]
  rcases entry.2.run_cases entry.1 h.journal with
    ⟨r, handlers, f, hr, hdescribes, hrun⟩ | ⟨hreset, hnot, f, hf⟩ | ⟨hreset, hrun⟩
  · refine Or.inl ⟨by rw [hrun]; rfl, by rw [hrun], r, hr, ?_⟩
    rw [hrun]
    exact hdescribes
  · exact Or.inr ⟨hnot, by rw [hf], Or.inr ⟨hreset, by rw [hf]⟩⟩
  · refine Or.inr ⟨?_, by rw [hrun], Or.inl ⟨hreset, by rw [hrun]⟩⟩
    rw [Event.IsMet, hrun]
    simp

/-! ## Looking back -/

/-- Some event of one kind has happened, and none of another kind after it. -/
def Since (p q : Event → Prop) (events : List Event) : Prop :=
  ∃ before e after, events = before ++ e :: after ∧ p e ∧ ∀ later ∈ after, ¬ q later

variable {p q : Event → Prop} {events : List Event} {e : Event}

lemma not_since_nil : ¬ Since p q [] := by
  rintro ⟨before, e, after, h, -⟩
  exact absurd h (by simp)

/-- **Looking back from one event later.** -/
lemma since_concat : Since p q (events ++ [e]) ↔ p e ∨ ¬ q e ∧ Since p q events := by
  constructor
  · rintro ⟨before, found, after, h, hp, hq⟩
    induction after using List.reverseRecOn with
    | nil =>
        obtain ⟨-, hlast⟩ := List.append_inj' h rfl
        obtain rfl := List.singleton_inj.1 hlast
        exact Or.inl hp
    | append_singleton after last =>
        rw [← List.cons_append, ← List.append_assoc] at h
        obtain ⟨rfl, hlast⟩ := List.append_inj' h rfl
        obtain rfl := List.singleton_inj.1 hlast
        refine Or.inr ⟨hq e (by simp), before, found, after, rfl, hp, fun later hlater => ?_⟩
        exact hq later (List.mem_append_left _ hlater)
  · rintro (hp | ⟨hq, before, found, after, rfl, hp, hafter⟩)
    · exact ⟨events, e, [], rfl, hp, by simp⟩
    · refine ⟨before, found, after ++ [e], by simp, hp, ?_⟩
      simpa [or_imp, forall_and] using ⟨hafter, hq⟩

/-! ## The law -/

/-- The flag is set exactly if a request has been met and the journal not been told to forget since. -/
lemma configured_history (f : Folder) (calls : List (String × Call)) :
    (history f calls).journal.configured = true
      ↔ Since Event.IsMet Event.IsReset (history f calls).events := by
  induction calls using List.reverseRecOn with
  | nil => exact iff_of_false (by simp [history, start]) not_since_nil
  | append_singleton calls entry ih =>
      rw [history_concat]
      obtain ⟨e, hevents, hcases⟩ := (history f calls).add_cases entry
      rw [hevents, since_concat, ← ih]
      rcases hcases with ⟨hmet, hset, -⟩ | ⟨hnot, -, ⟨hreset, hset⟩ | ⟨hreset, hset⟩⟩
      · exact iff_of_true hset (Or.inl hmet)
      · exact iff_of_false (by simp [hset]) (by simp [hnot, hreset])
      · simp [hset, hnot, hreset]

/-- The handlers are those that the last request described which has been met. -/
lemma handlers_history (f : Folder) (calls : List (String × Call)) :
    (∀ e ∈ (history f calls).events, ¬ e.IsMet) ∧ (history f calls).journal.handlers = []
      ∨ ∃ r, Since (fun e => e.IsMet ∧ e.call.request? = some r) Event.IsMet (history f calls).events
        ∧ r.Describes (history f calls).journal.handlers := by
  induction calls using List.reverseRecOn with
  | nil => exact Or.inl ⟨by simp [history], rfl⟩
  | append_singleton calls entry ih =>
      rw [history_concat]
      obtain ⟨e, hevents, hcases⟩ := (history f calls).add_cases entry
      rw [hevents]
      rcases hcases with ⟨hmet, -, r, hr, hdescribes⟩ | ⟨hnot, hkept, -⟩
      · exact Or.inr ⟨r, since_concat.2 (Or.inl ⟨hmet, hr⟩), hdescribes⟩
      · rw [hkept]
        rcases ih with ⟨hnone, hempty⟩ | ⟨r, hsince, hdescribes⟩
        · refine Or.inl ⟨fun other hother => ?_, hempty⟩
          rcases List.mem_append.1 hother with hother | hother
          · exact hnone other hother
          · obtain rfl := List.mem_singleton.1 hother
            exact hnot
        · exact Or.inr ⟨r, since_concat.2 (Or.inr ⟨hnot, hsince⟩), hdescribes⟩

/-- **What a request is answered.**  It is ignored if the journal counts as configured and the request does not
insist.  Otherwise it is refused if it names an unknown level, and met if it describes handlers. -/
lemma configure_answer (now : String) {r : LogRequest} {j : Journal} (hopens : r.Opens j.folder) :
    if j.configured && !r.force.isTruthy then (j.configure now r).1 = .ok false
    else (r.NamesUnknownLevel →
          ∃ option given, (j.configure now r).1 = Fault.refuse (.levelUnknown option given))
      ∧ ∀ handlers, r.Describes handlers → (j.configure now r).1 = .ok true := by
  rw [configure]
  split_ifs
  · rfl
  · refine ⟨fun hunknown => ?_, fun handlers hdescribes => ?_⟩
    · obtain ⟨option, given, hrefused⟩ := LogRequest.install_of_namesUnknownLevel hunknown hopens
      cases hinstall : r.install j.folder with
      | mk answer g =>
          obtain rfl : answer = Fault.refuse (.levelUnknown option given) := by rw [← hrefused, hinstall]
          exact ⟨option, given, rfl⟩
    · obtain ⟨g, hinstall⟩ := LogRequest.install_of_describes hdescribes hopens
      rw [hinstall]

/-- **What the history of a journal says about it.**  After any calls, the journal counts as configured exactly
if a request has been met since it was last told to forget.  Its handlers are those of the last request that
has been met, also if it was told to forget after that, and there are none before the first.  A call that is
not met changes neither of the two, except that being told to forget takes back the flag.  If its file can be
opened, a request is ignored, or refused for an unknown level, or met, as `configure_answer` says. -/
theorem history_law (f : Folder) (calls : List (String × Call)) :
    let events := (history f calls).events
    let j := (history f calls).journal
    (j.configured = true ↔ Since Event.IsMet Event.IsReset events)
      ∧ ((∀ e ∈ events, ¬ e.IsMet) ∧ j.handlers = []
        ∨ ∃ r, Since (fun e => e.IsMet ∧ e.call.request? = some r) Event.IsMet events
          ∧ r.Describes j.handlers ∧ ∀ others, r.Describes others → others = j.handlers)
      ∧ (∀ (now : String) (call : Call), (call.run now j).1 ≠ .ok true →
          (call.run now j).2.handlers = j.handlers
            ∧ (call ≠ .reset → (call.run now j).2.configured = j.configured))
      ∧ (∀ (now : String) (r : LogRequest), r.Opens j.folder →
          if j.configured && !r.force.isTruthy then (j.configure now r).1 = .ok false
          else (r.NamesUnknownLevel →
                ∃ option given, (j.configure now r).1 = Fault.refuse (.levelUnknown option given))
            ∧ ∀ handlers, r.Describes handlers → (j.configure now r).1 = .ok true) := by
  intro events j
  refine ⟨configured_history f calls, ?_, fun now call hnot => ?_,
    fun now r hopens => configure_answer now hopens⟩
  · refine (handlers_history f calls).imp id fun ⟨r, hsince, hdescribes⟩ => ?_
    exact ⟨r, hsince, hdescribes, fun others hothers => hothers.unique hdescribes⟩
  · rcases call.run_cases now j with ⟨r, handlers, g, -, -, hrun⟩ | ⟨-, -, g, hg⟩ | ⟨hreset, hrun⟩
    · exact absurd (congrArg Prod.fst hrun) hnot
    · exact ⟨by rw [hg], fun _ => by rw [hg]⟩
    · exact ⟨by rw [hrun], fun hne => absurd hreset hne⟩

/-- The handlers outlive the flag. -/
example :
    let j := (history .empty [("now", .configure .standard), ("later", .reset)]).journal
    j.configured = false ∧ j.handlers.map Handler.level = [.info] := by
  decide +kernel

end Journal

end TextSplit
