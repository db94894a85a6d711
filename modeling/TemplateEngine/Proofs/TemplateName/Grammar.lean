import TemplateEngine.Proofs.Text.Pieces
import TemplateEngine.TemplateName

/-!
# The grammar of template names

A name is a file, or the name of a folder and a file with the folder separator between them. Which
of the two it is, and where the folder ends, is told by its pieces. Nothing of a name is lost when
it is taken apart, so a folder and a file have a name that leads back to them; but not every name
that a folder can be given has this property.

## Main definitions

* `TemplateName.identifier`: the name of a file, in a folder or not.
* `TemplateName.Reads`, `TemplateName.Refuses`: the pieces that are a name, and the fault of others.
* `Folder.IsAddressable`: the name of a folder ends where the separator behind it begins.

## Main results

* `TemplateName.parse_grammar`: a name is taken apart iff its pieces follow the grammar.
* `Folders.addressed_iff`: which of the folders that can be added can be addressed.
-/

namespace TemplateEngine

theorem folderSeparator_ne : folderSeparator ≠ "" := by decide

namespace Folders

variable {folders : Folders} {name : String} {folder : Folder}

/-- A folder that is found has the name under which it is found. -/
theorem name_eq_of_named? (h : folders.named? name = some folder) : folder.name = name := by
  induction folders with
  | nil => cases h
  | cons first rest ih =>
    by_cases hfirst : first.name = name
    · rw [named?, if_pos hfirst] at h
      cases h
      exact hfirst
    · rw [named?, if_neg hfirst] at h
      exact ih h

end Folders

namespace TemplateName

/-- The name of a file, in a folder or not. -/
def identifier (folder : Option Folder) (file : String) : String :=
  match folder with
  | none => file
  | some folder => folder.name ++ folderSeparator ++ file

/-- The pieces of names: a file, or the name of a folder that is there and a file. -/
inductive Reads (folders : Folders) : List String → Option Folder → String → Prop
  | plain {file : String} (hfile : file ≠ "") : Reads folders [file] none file
  | inFolder {name file : String} {folder : Folder} (hname : name ≠ "")
    (hfolder : folders.named? name = some folder) (hfile : file ≠ "") :
    Reads folders [name, file] (some folder) file

/-- The fault of the pieces of a text that is no name. Where several things are wrong, the number of
pieces comes first, then the name of the folder, then the folder, then the file. -/
inductive Refuses (folders : Folders) (text : String) : List String → Fault → Prop
  | repeated {pieces : List String} (hpieces : 2 < pieces.length) :
    Refuses folders text pieces (.separatorRepeated text)
  | folderEmpty {file : String} : Refuses folders text ["", file] (.folderPartEmpty text)
  | folderUnknown {name file : String} (hname : name ≠ "")
    (hfolder : folders.named? name = none) :
    Refuses folders text [name, file] (.folderNotFound name)
  | fileEmptyInFolder {name : String} {folder : Folder} (hname : name ≠ "")
    (hfolder : folders.named? name = some folder) :
    Refuses folders text [name, ""] (.filePartEmpty text)
  | fileEmpty : Refuses folders text [""] (.filePartEmpty text)

variable {folders : Folders} {text : String} {pieces : List String} {folder : Option Folder}
  {file : String} {extension : Option String} {fault : Fault}

/-! ### Taking names apart -/

/-- Pieces are those of a name, or they are refused. -/
theorem reads_or_refuses (folders : Folders) (text : String) (hpieces : pieces ≠ []) :
    (∃ folder file, Reads folders pieces folder file) ∨
      ∃ fault, Refuses folders text pieces fault := by
  -- by the number of pieces, and within two pieces in the order in which they are checked
  match pieces, hpieces with
  | [file], _ =>
    by_cases hfile : file = ""
    · subst hfile
      exact .inr ⟨_, .fileEmpty⟩
    · exact .inl ⟨none, file, .plain hfile⟩
  | [name, file], _ =>
    by_cases hname : name = ""
    · subst hname
      exact .inr ⟨_, .folderEmpty⟩
    · cases hfolder : folders.named? name with
      | none => exact .inr ⟨_, .folderUnknown hname hfolder⟩
      | some folder =>
        by_cases hfile : file = ""
        · subst hfile
          exact .inr ⟨_, .fileEmptyInFolder hname hfolder⟩
        · exact .inl ⟨some folder, file, .inFolder hname hfolder hfile⟩
  | _ :: _ :: _ :: rest, _ => exact .inr ⟨_, .repeated (by simp)⟩

/-- Pieces of a name are read. -/
theorem parse_of_reads (extension : Option String)
    (h : Reads folders (Text.splitAt folderSeparator text) folder file) :
    parse text folders extension = .ok ⟨text, withExtension file extension, folder⟩ := by
  unfold parse
  generalize Text.splitAt folderSeparator text = pieces at h
  cases h with
  | plain hfile => simp [ofParts, hfile]
  | inFolder hname hfolder hfile => simp [hname, Folders.fetch, hfolder, ofParts, hfile]

/-- Other pieces are refused. -/
theorem parse_of_refuses (extension : Option String)
    (h : Refuses folders text (Text.splitAt folderSeparator text) fault) :
    parse text folders extension = .error fault := by
  unfold parse
  generalize Text.splitAt folderSeparator text = pieces at h
  cases h with
  | repeated hpieces =>
    match pieces, hpieces with
    | _ :: _ :: _ :: _, _ => rfl
  | folderEmpty => rfl
  | folderUnknown hname hfolder => simp [hname, Folders.fetch, hfolder]
  | fileEmptyInFolder hname hfolder => simp [hname, Folders.fetch, hfolder, ofParts]
  | fileEmpty => rfl

/-- What the pieces of a name are read as leads back to the name. -/
theorem identifier_of_reads
    (h : Reads folders (Text.splitAt folderSeparator text) folder file) :
    identifier folder file = text := by
  have hjoined := Text.joinChars_splitAt folderSeparator text
  generalize Text.splitAt folderSeparator text = pieces at h hjoined
  refine String.toList_injective ?_
  cases h with
  | plain hfile => exact hjoined
  | inFolder hname hfolder hfile =>
    rw [identifier, Folders.name_eq_of_named? hfolder]
    simpa [Text.joinChars] using hjoined

theorem parse_eq_ok_iff (text : String) (folders : Folders) (extension : Option String)
    (n : TemplateName) :
    parse text folders extension = .ok n ↔
      ∃ file, Reads folders (Text.splitAt folderSeparator text) n.folder file ∧ n.name = text ∧
        n.file = withExtension file extension := by
  constructor
  · intro h
    rcases reads_or_refuses folders text (Text.splitAt_ne_nil folderSeparator text) with
      ⟨folder, file, hreads⟩ | ⟨fault, hrefuses⟩
    · cases h.symm.trans (parse_of_reads extension hreads)
      exact ⟨file, hreads, rfl, rfl⟩
    · cases h.symm.trans (parse_of_refuses extension hrefuses)
  · rintro ⟨file, hreads, hname, hfile⟩
    rw [parse_of_reads extension hreads, ← hname, ← hfile]

theorem parse_eq_error_iff (text : String) (folders : Folders) (extension : Option String)
    (fault : Fault) :
    parse text folders extension = .error fault ↔
      Refuses folders text (Text.splitAt folderSeparator text) fault := by
  constructor
  · intro h
    rcases reads_or_refuses folders text (Text.splitAt_ne_nil folderSeparator text) with
      ⟨folder, file, hreads⟩ | ⟨other, hrefuses⟩
    · cases h.symm.trans (parse_of_reads extension hreads)
    · cases h.symm.trans (parse_of_refuses extension hrefuses)
      exact hrefuses
  · exact parse_of_refuses extension

theorem withExtension_eq (file : String) (extension : Option String) :
    withExtension file extension =
      if extension.getD "" = "" then file else file ++ "." ++ extension.getD "" := by
  cases extension <;> rfl

/-- An unknown folder is a fault of folders, and all other faults are those of the name. -/
theorem Refuses.kind_cases (h : Refuses folders text pieces fault) :
    (∃ name, fault = .folderNotFound name ∧ fault.kind = .folder) ∨
      fault.kind = .invalidTemplateName := by
  cases h with
  | folderUnknown => exact .inl ⟨_, rfl, rfl⟩
  | repeated => exact .inr rfl
  | folderEmpty => exact .inr rfl
  | fileEmptyInFolder => exact .inr rfl
  | fileEmpty => exact .inr rfl

/-- A text is taken apart iff its pieces, between which the separator is cut out leftmost first,
follow the grammar: a file, or the name of a folder that is there and a file. What is read leads
back to the text, and the file has the extension, unless that is empty. Other pieces are refused
with the first fault that they have. -/
theorem parse_grammar (text : String) (folders : Folders) (extension : Option String) :
    ∃ pieces : List String,
      (∀ others : List String,
        Text.Pieces folderSeparator.toList text.toList (others.map String.toList) ↔
          pieces = others) ∧
      (∀ n, parse text folders extension = .ok n ↔
        ∃ file, Reads folders pieces n.folder file ∧ n.name = text ∧ n.file =
          if extension.getD "" = "" then file else file ++ "." ++ extension.getD "") ∧
      (∀ folder file, Reads folders pieces folder file → identifier folder file = text) ∧
      (∀ fault, parse text folders extension = .error fault ↔ Refuses folders text pieces fault) ∧
      ∀ fault, Refuses folders text pieces fault →
        (∃ name, fault = .folderNotFound name ∧ fault.kind = .folder) ∨
          fault.kind = .invalidTemplateName := by
  refine ⟨Text.splitAt folderSeparator text, fun others => ?_, fun n => ?_, fun _ _ h => ?_,
    fun fault => ?_, fun _ h => h.kind_cases⟩
  · exact (Text.splitAt_eq_iff folderSeparator_ne).symm
  · simpa only [withExtension_eq] using parse_eq_ok_iff text folders extension n
  · exact identifier_of_reads h
  · exact parse_eq_error_iff text folders extension fault

end TemplateName

/-! ### Folders that can be addressed -/

/-- The name of a folder ends where the separator behind it begins: there is a name, and the
separator does not begin in it. -/
def Folder.IsAddressable (folder : Folder) : Prop :=
  folder.name ≠ "" ∧ ¬folderSeparator.toList <:+: folder.name.toList ∧
    folder.name.toList.getLast? ≠ some ':'

section Addressing

variable {folders : Folders} {folder : Folder} {file : String}

/-- The name of a file in a folder has these two for its pieces iff the separator does not begin
earlier. -/
theorem splitAt_identifier_iff (hfile : ¬folderSeparator.toList <:+: file.toList) :
    Text.splitAt folderSeparator (TemplateName.identifier (some folder) file) =
        [folder.name, file] ↔
      ¬folderSeparator.toList <:+: folder.name.toList ∧
        folder.name.toList.getLast? ≠ some ':' := by
  have hcolons : folderSeparator.toList = [':', ':'] := rfl
  rw [Text.splitAt_eq_iff folderSeparator_ne, TemplateName.identifier]
  simp only [String.toList_append, List.map_cons, List.map_nil]
  rw [Text.pieces_pair_iff hfile, hcolons, Text.isFirst_pair_iff]

/-- The name of a file in a folder that is there is read as that folder and that file iff the folder
can be addressed, and it is read as that folder in no other way. -/
theorem reads_identifier_iff (hfolder : folders.named? folder.name = some folder)
    (hfile : file ≠ "") (hseparator : ¬folderSeparator.toList <:+: file.toList) (read : String) :
    TemplateName.Reads folders
        (Text.splitAt folderSeparator (TemplateName.identifier (some folder) file)) (some folder)
        read ↔
      folder.IsAddressable ∧ read = file := by
  constructor
  · intro h
    have hidentifier : folder.name ++ folderSeparator ++ read =
        folder.name ++ folderSeparator ++ file := TemplateName.identifier_of_reads h
    obtain rfl : read = file := (String.append_right_inj _).mp hidentifier
    generalize hpieces : Text.splitAt folderSeparator _ = pieces at h
    cases h with
    | inFolder hname hfound =>
      rw [← Folders.name_eq_of_named? hfound] at hname hpieces
      exact ⟨⟨hname, (splitAt_identifier_iff hseparator).mp hpieces⟩, rfl⟩
  · rintro ⟨⟨hname, hfirst⟩, rfl⟩
    rw [(splitAt_identifier_iff hseparator).mpr hfirst]
    exact .inFolder hname hfolder hfile

/-- Of the folders that can be added, those and only those can be addressed whose name is not empty,
holds no separator and does not end with a colon: then the name of a file in the folder is taken
apart into this folder and this file, and the first place to look is the file in the directory of
the folder. Otherwise no such name leads to the folder. -/
theorem Folders.addressed_iff {folders' : Folders} {files : FileTree}
    (hadd : folders.add files folder = .ok folders') (hfile : file ≠ "")
    (hseparator : ¬folderSeparator.toList <:+: file.toList) (extension : Option String)
    (directory : Option Path) :
    (folder.IsAddressable ↔ ∃ n, TemplateName.parse
      (folder.name ++ folderSeparator ++ file) folders' extension = .ok n ∧
        n.folder = some folder) ∧
    ∀ n, TemplateName.parse (folder.name ++ folderSeparator ++ file) folders' extension = .ok n →
      n.folder = some folder →
      n.file = (if extension.getD "" = "" then file else file ++ "." ++ extension.getD "") ∧
        (n.candidates directory).head? = some (folder.path.joinText n.file) := by
  have hread := reads_identifier_iff (named?_add hadd) hfile hseparator
  refine ⟨⟨fun haddressable => ?_, ?_⟩, ?_⟩
  · exact ⟨_, TemplateName.parse_of_reads extension ((hread file).mpr ⟨haddressable, rfl⟩), rfl⟩
  · rintro ⟨n, hparse, hn⟩
    obtain ⟨read, hreads, -, -⟩ := (TemplateName.parse_eq_ok_iff _ _ _ n).mp hparse
    rw [hn] at hreads
    exact ((hread read).mp hreads).1
  · intro n hparse hn
    obtain ⟨read, hreads, -, hextended⟩ := (TemplateName.parse_eq_ok_iff _ _ _ n).mp hparse
    rw [hn] at hreads
    obtain ⟨-, rfl⟩ := (hread read).mp hreads
    refine ⟨hextended.trans (TemplateName.withExtension_eq read extension), ?_⟩
    simp [TemplateName.candidates, hn]

/-- Files with a directory for the templates of folders. -/
def mailFiles : FileTree := { entries := [(["t"], .directory), (["t", "mail"], .directory)] }

/-- A folder with that directory. -/
def mailFolder (name : String) : Folder := ⟨name, .ofText "/t/mail", false⟩

/-- A folder with an ordinary name is addressed, also where the file begins with a colon. -/
theorem Folders.addressed_iff_mail :
    Folders.add [] mailFiles (mailFolder "mail") = .ok [mailFolder "mail"] ∧
      ":welcome" ≠ "" ∧ ¬folderSeparator.toList <:+: ":welcome".toList ∧
      ∃ n, TemplateName.parse "mail:::welcome" [mailFolder "mail"] (some "jinja") = .ok n ∧
        n.folder = some (mailFolder "mail") ∧ n.file = ":welcome.jinja" ∧
        (n.candidates none).head? = some (.ofText "/t/mail/:welcome.jinja") := by
  have hadd : Folders.add [] mailFiles (mailFolder "mail") = .ok [mailFolder "mail"] := rfl
  have hfile : ":welcome" ≠ "" := by decide
  have hseparator : ¬folderSeparator.toList <:+: ":welcome".toList := by decide
  obtain ⟨hiff, hread⟩ := Folders.addressed_iff hadd hfile hseparator (some "jinja") none
  obtain ⟨n, hparse, hn⟩ := hiff.mp ⟨by decide, by decide, by decide⟩
  obtain ⟨hextended, hfirst⟩ := hread n hparse hn
  have hwelcome : n.file = ":welcome.jinja" := hextended
  rw [hwelcome] at hfirst
  exact ⟨hadd, hfile, hseparator, n, hparse, hn, hwelcome, hfirst⟩

/-- Folders can be added without a name, with a separator in their name, or with a colon at its end,
and no name leads to them; in the last case it may lead to another folder instead. -/
theorem Folders.add_not_addressed :
    (∃ folders', Folders.add [] mailFiles (mailFolder "") = .ok folders' ∧
      TemplateName.parse "::welcome" folders' none = .error (.folderPartEmpty "::welcome")) ∧
    (∃ folders', Folders.add [] mailFiles (mailFolder "a::b") = .ok folders' ∧
      TemplateName.parse "a::b::welcome" folders' none =
        .error (.separatorRepeated "a::b::welcome")) ∧
    ∃ folders', Folders.add [mailFolder "a"] mailFiles (mailFolder "a:") = .ok folders' ∧
      TemplateName.parse "a:::welcome" folders' none =
        .ok ⟨"a:::welcome", ":welcome", some (mailFolder "a")⟩ :=
  ⟨⟨_, rfl, rfl⟩, ⟨_, rfl, rfl⟩, ⟨_, rfl, rfl⟩⟩

end Addressing

end TemplateEngine
