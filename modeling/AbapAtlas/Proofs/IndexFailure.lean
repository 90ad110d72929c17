import AbapAtlas.Proofs.Catalogue

/-! Failures that keep a repository from being indexed, on any host and with any reader of ignore
files: the host hides the source folder, or a fault that is no refusal of the file system comes up
before any such refusal in reading the ignore file and searching the folder. A refusal there leaves
an empty index, as does a folder that is not there, and no file is outside the repository. -/
namespace AbapAtlas

def Ignore.Reader.Decodes {ε : Type} (reader : Ignore.Reader ε) : Prop :=
  ∀ folder content, String.fromUTF8? content = none →
    ∃ fault, reader folder content = .error (.raised fault)

theorem Ignore.decodes_reader (disk : Disk) : (Ignore.reader disk).Decodes := by
  intro folder content broken
  exact ⟨.notUtf8,by rw [reader,broken]⟩

namespace SourceFiles
variable {ε : Type} {host : Host ε} {reader : Ignore.Reader ε} {disk : Disk}
  {rulesFolder : Option Path} {folder : Path} {extensions : List String}
  {ignored : Path → Except (Stop ε) Bool} {stop : Stop ε}

/-- That a search ends at the first of some entries that does not let it go on: the host ends it
there, or the reader's rules do at a wanted file. -/
inductive Ends (host : Host ε) (folder : Path) (extensions : List String)
    (ignored : Path → Except (Stop ε) Bool) (stop : Stop ε) : List (List String × Entry) → Prop where
  | listing {item : List String × Entry} {rest : List (List String × Entry)}
      (ended : host.lists (folder.below item.1) = .error stop) :
      Ends host folder extensions ignored stop (item :: rest)
  | matching {item : List String × Entry} {rest : List (List String × Entry)}
      (listed : host.lists (folder.below item.1) = .ok true) (file : item.2.isFile = true)
      (extension : hasExtension extensions (item.1.getLastD "") = true)
      (ended : ignored (folder.below item.1) = .error stop) :
      Ends host folder extensions ignored stop (item :: rest)
  | later {item : List String × Entry} {rest : List (List String × Entry)}
      (passed : visit host folder extensions ignored item = .ok ())
      (ends : Ends host folder extensions ignored stop rest) :
      Ends host folder extensions ignored stop (item :: rest)

theorem visit_eq_error_iff {item : List String × Entry} :
    visit host folder extensions ignored item = .error stop ↔
      host.lists (folder.below item.1) = .error stop ∨
      host.lists (folder.below item.1) = .ok true ∧ item.2.isFile = true ∧
        hasExtension extensions (item.1.getLastD "") = true ∧
        ignored (folder.below item.1) = .error stop := by
  rw [visit]
  cases host.lists (folder.below item.1) with
  | error other => simp
  | ok listed =>
    cases listed with
    | false => simp
    | true =>
      generalize hasExtension extensions (item.1.getLastD "") = wanted
      cases ignored (folder.below item.1) <;> cases item.2.isFile <;> cases wanted <;>
        simp [Except.map]

/-- A search stops just where an entry ends it. -/
theorem forM_visit_eq_error_iff {items : List (List String × Entry)} :
    items.forM (visit host folder extensions ignored) = .error stop ↔
      Ends host folder extensions ignored stop items := by
  induction items with
  | nil =>
    refine ⟨fun failed => ?_,fun ends => ?_⟩
    · cases failed
    · cases ends
  | cons item rest ih =>
    simp only [List.forM_eq_forM,List.forM_cons] at ih ⊢
    cases visited : visit host folder extensions ignored item with
    | ok done =>
      change rest.forM (visit host folder extensions ignored) = .error stop ↔ _
      refine ih.trans ⟨.later visited,fun ends => ?_⟩
      cases ends with
      | later _ ends => exact ends
      | listing ended =>
        rw [visit_eq_error_iff.mpr (Or.inl ended)] at visited
        cases visited
      | matching listed file extension ended =>
        rw [visit_eq_error_iff.mpr (Or.inr ⟨listed,file,extension,ended⟩)] at visited
        cases visited
    | error other =>
      constructor
      · intro failed
        cases failed
        rcases visit_eq_error_iff.mp visited with ended | ⟨listed,file,extension,ended⟩
        · exact .listing ended
        · exact .matching listed file extension ended
      · intro ends
        cases ends with
        | later passed _ =>
          rw [passed] at visited
          cases visited
        | listing ended =>
          rw [← visited,visit_eq_error_iff.mpr (Or.inl ended)]
          rfl
        | matching listed file extension ended =>
          rw [← visited,visit_eq_error_iff.mpr (Or.inr ⟨listed,file,extension,ended⟩)]
          rfl

/-- The ways in which a search ends early: the file system refuses the ignore file, its reader stops,
or an entry ends it. -/
inductive Stopped (host : Host ε) (reader : Ignore.Reader ε) (disk : Disk)
    (rulesFolder : Option Path) (folder : Path) (extensions : List String) : Stop ε → Prop where
  | hidden {root : Path} {fault : ε} (respected : rulesFolder = some root)
      (asked : host.hides (root.below [Ignore.fileName]) = some fault) :
      Stopped host reader disk rulesFolder folder extensions .refused
  | locked {root : Path} {content : ByteArray} {trouble : Trouble}
      (respected : rulesFolder = some root)
      (asked : host.hides (root.below [Ignore.fileName]) = none)
      (held : disk.content (root.below [Ignore.fileName]) = .ok content)
      (opened : host.locks (root.below [Ignore.fileName]) = some trouble) :
      Stopped host reader disk rulesFolder folder extensions .refused
  | read {root : Path} {content : ByteArray} {stop : Stop ε} (respected : rulesFolder = some root)
      (asked : host.hides (root.below [Ignore.fileName]) = none)
      (held : disk.content (root.below [Ignore.fileName]) = .ok content)
      (opened : host.locks (root.below [Ignore.fileName]) = none)
      (failed : reader root content = .error stop) :
      Stopped host reader disk rulesFolder folder extensions stop
  | searched {ignored : Path → Except (Stop ε) Bool} {stop : Stop ε}
      (ruled : ignoring host reader disk rulesFolder = .ok ignored)
      (ends : Ends host folder extensions ignored stop (visited disk folder)) :
      Stopped host reader disk rulesFolder folder extensions stop

theorem ignoring_some_cases (root : Path) (failed : ignoring host reader disk (some root) = .error stop) :
    Stopped host reader disk (some root) folder extensions stop := by
  rw [ignoring] at failed
  cases asked : host.hides (root.below [Ignore.fileName]) with
  | some fault =>
    simp only [asked,Option.isSome_some,if_true] at failed
    cases failed
    exact .hidden rfl asked
  | none =>
    simp only [asked,Option.isSome_none,Bool.false_eq_true,if_false] at failed
    cases held : disk.content (root.below [Ignore.fileName]) with
    | error trouble =>
      rw [held] at failed
      cases failed
    | ok content =>
      rw [held] at failed
      cases opened : host.locks (root.below [Ignore.fileName]) with
      | some trouble =>
        simp only [opened,Option.isSome_some,if_true] at failed
        cases failed
        exact .locked rfl asked held opened
      | none =>
        simp only [opened,Option.isSome_none,Bool.false_eq_true,if_false] at failed
        exact .read rfl asked held opened failed

/-- A search stops just in the ways listed. -/
theorem scan_eq_error_iff :
    scan host reader disk rulesFolder folder extensions = .error stop ↔
      Stopped host reader disk rulesFolder folder extensions stop := by
  rw [scan]
  constructor
  · intro failed
    cases ruled : ignoring host reader disk rulesFolder with
    | error other =>
      rw [ruled] at failed
      cases failed
      cases rulesFolder with
      | none => cases ruled
      | some root => exact ignoring_some_cases root ruled
    | ok ignored =>
      refine .searched ruled (forM_visit_eq_error_iff.mp ?_)
      rw [ruled] at failed
      cases searched : (visited disk folder).forM (visit host folder extensions ignored) with
      | error other =>
        simp only [bind,Except.bind,searched] at failed
        cases failed
        rfl
      | ok done =>
        simp only [bind,Except.bind,searched] at failed
        cases failed
  · intro stopped
    cases stopped with
    | hidden respected asked =>
      simp only [respected,ignoring,asked,Option.isSome_some,if_true]
      rfl
    | locked respected asked held opened =>
      simp only [respected,ignoring,asked,held,opened,Option.isSome_none,Option.isSome_some,
        Bool.false_eq_true,if_false,if_true]
      rfl
    | read respected asked held opened failed =>
      simp only [respected,ignoring,asked,held,opened,failed,Option.isSome_none,
        Bool.false_eq_true,if_false]
      rfl
    | searched ruled ends =>
      rw [ruled]
      simp only [bind,Except.bind,forM_visit_eq_error_iff.mpr ends]

theorem exists_find_of_scan {files : List (List String)}
    (found : scan host reader disk rulesFolder folder extensions = .ok files) :
    ∃ passed, files = find disk folder extensions passed := by
  rw [scan] at found
  cases ruled : ignoring host reader disk rulesFolder with
  | error stop =>
    rw [ruled] at found
    cases found
  | ok ignored =>
    rw [ruled] at found
    cases searched : (visited disk folder).forM (visit host folder extensions ignored) with
    | error stop =>
      simp only [bind,Except.bind,searched] at found
      cases found
    | ok done =>
      simp only [bind,Except.bind,searched,pure,Except.pure,Except.ok.injEq] at found
      exact ⟨_,found.symm⟩

end SourceFiles

namespace SourceIndex
variable {ε : Type} {host : Host ε} {reader : Ignore.Reader ε} {disk : Disk} {root : Path}
  {srcDir : String} {extensions : List String} {respectIgnore : Bool}

/-- The ways in which indexing a source folder ends in a fault. -/
inductive Breaks (host : Host ε) (reader : Ignore.Reader ε) (disk : Disk) (root folder : Path)
    (extensions : List String) (respectIgnore : Bool) (fault : ε) : Prop where
  | hidden (asked : host.hides folder = some fault)
  | searched (asked : host.hides folder = none) (present : disk.isFolder folder = true)
      (stopped : SourceFiles.Stopped host reader disk (if respectIgnore then some root else none)
        folder extensions (.raised fault))

theorem buildOn_of_breaks {fault : ε}
    (breaks : Breaks host reader disk root (root.within (Path.ofString srcDir)) extensions
      respectIgnore fault) :
    buildOn host reader disk root srcDir extensions respectIgnore = .error (.inl fault) := by
  cases breaks with
  | hidden asked => simp only [buildOn,asked]
  | searched asked present stopped =>
    simp only [buildOn,asked,present,if_true,SourceFiles.scan_eq_error_iff.mpr stopped]

theorem buildOn_of_refused
    (asked : host.hides (root.within (Path.ofString srcDir)) = none)
    (refused : disk.isFolder (root.within (Path.ofString srcDir)) = true →
      SourceFiles.Stopped host reader disk (if respectIgnore then some root else none)
        (root.within (Path.ofString srcDir)) extensions .refused) :
    buildOn host reader disk root srcDir extensions respectIgnore = .ok { folder := srcDir } := by
  cases present : disk.isFolder (root.within (Path.ofString srcDir)) with
  | false => simp only [buildOn,asked,present,Bool.false_eq_true,if_false]
  | true =>
    simp only [buildOn,asked,present,if_true,SourceFiles.scan_eq_error_iff.mpr (refused present)]

/-- An index is built or a fault passed on: no file that is found is outside the repository. -/
theorem buildOn_cases (relative : (Path.ofString srcDir).isAbsolute = false) :
    (∃ index, buildOn host reader disk root srcDir extensions respectIgnore = .ok index) ∨
      ∃ fault, Breaks host reader disk root (root.within (Path.ofString srcDir)) extensions
        respectIgnore fault := by
  cases asked : host.hides (root.within (Path.ofString srcDir)) with
  | some fault => exact Or.inr ⟨fault,.hidden asked⟩
  | none =>
    cases present : disk.isFolder (root.within (Path.ofString srcDir)) with
    | false =>
      refine Or.inl ⟨_,buildOn_of_refused asked fun folder => ?_⟩
      rw [present] at folder
      cases folder
    | true =>
      cases found : SourceFiles.scan host reader disk (if respectIgnore then some root else none)
          (root.within (Path.ofString srcDir)) extensions with
      | error stop =>
        have stopped := SourceFiles.scan_eq_error_iff.mp found
        cases stop with
        | refused => exact Or.inl ⟨_,buildOn_of_refused asked fun _ => stopped⟩
        | raised fault => exact Or.inr ⟨fault,.searched asked present stopped⟩
      | ok files =>
        obtain ⟨passed,rfl⟩ := SourceFiles.exists_find_of_scan found
        obtain ⟨placed,mapped⟩ := exists_repositoryNames
          (inside_of_relative disk root relative extensions passed)
        refine Or.inl ⟨ofFiles srcDir placed,?_⟩
        simp only [buildOn,asked,present,if_true,found,mapped]
        rfl

/-- A source folder of a repository has an index if and only if nothing of what can end its search
does: then the fault is passed on. A folder that is not there and one that the file system refuses to
let be searched have an empty index. -/
theorem exists_buildOn_iff (host : Host ε) (reader : Ignore.Reader ε) (disk : Disk) (root : Path)
    {above : List String} (nonempty : above ≠ []) (written : ∀ name ∈ above, Path.Written name)
    (extensions : List String) (respectIgnore : Bool) :
    let built := buildOn host reader disk root (Path.joined above) extensions respectIgnore
    ((∃ index, built = .ok index) ↔
      ¬ ∃ fault, Breaks host reader disk root (root.below above) extensions respectIgnore fault) ∧
    (∀ fault, Breaks host reader disk root (root.below above) extensions respectIgnore fault →
      built = .error (.inl fault)) ∧
    (host.hides (root.below above) = none →
      (disk.isFolder (root.below above) = true →
        SourceFiles.Stopped host reader disk (if respectIgnore then some root else none)
          (root.below above) extensions .refused) →
      built = .ok { folder := Path.joined above }) := by
  have relative : (Path.ofString (Path.joined above)).isAbsolute = false := by
    rw [Path.ofString_joined nonempty written]
    rfl
  have folder := Path.within_joined root nonempty written
  rw [← folder]
  refine ⟨⟨?_,fun free => (buildOn_cases relative).resolve_right free⟩,
    fun fault => buildOn_of_breaks,buildOn_of_refused⟩
  rintro ⟨index,built⟩ ⟨fault,breaks⟩
  rw [buildOn_of_breaks breaks] at built
  cases built

theorem build_eq_ok_iff {index : SourceIndex} :
    build disk root srcDir extensions respectIgnore = .ok index ↔
      buildOn .plain (Ignore.reader disk) disk root srcDir extensions respectIgnore =
        .ok index := by
  rw [build]
  cases buildOn .plain (Ignore.reader disk) disk root srcDir extensions respectIgnore <;>
    simp [Except.mapError]

section Example

def ruledTree (rules : ByteArray) : Disk where
  entries := [(["src"],.folder),(["src","zdemo.prog.abap"],.file .empty),
    ([".gitignore"],.file rules)]
  distinct := (by decide : [["src"],["src","zdemo.prog.abap"],[".gitignore"]].Nodup)

theorem content_ruledTree (rules : ByteArray) :
    (ruledTree rules).content (Path.below ⟨.root,[]⟩ [Ignore.fileName]) = .ok rules := by
  have reached : (ruledTree rules).target? (Path.below ⟨.root,[]⟩ [Ignore.fileName]) =
      some ([".gitignore"],.file rules) := by
    refine Disk.target?_eq_some_iff.mpr ⟨by decide,?_⟩
    exact Disk.walk_file (by decide) rfl
  exact Disk.content_of_target? reached

theorem target?_ruledFolder (rules : ByteArray) :
    (ruledTree rules).target? (Path.below ⟨.root,[]⟩ ["src"]) = some (["src"],.folder) := by
  refine Disk.target?_eq_some_iff.mpr ⟨by decide,?_⟩
  change (ruledTree rules).walk true Disk.linkLimit [] ["src"] = _
  rw [Disk.walk_folder (by decide) rfl,Disk.walk]
  rfl

theorem visited_ruledFolder (rules : ByteArray) :
    SourceFiles.visited (ruledTree rules) (Path.below ⟨.root,[]⟩ ["src"]) =
      [([],.folder),(["zdemo.prog.abap"],.file .empty)] := by
  rw [SourceFiles.visited,target?_ruledFolder]
  rfl

theorem joined_ruledFolder : Path.joined ["src"] = "src" := by decide +kernel

theorem within_ruledFolder : Path.within ⟨.root,[]⟩ (Path.ofString "src") =
    Path.below ⟨.root,[]⟩ ["src"] := by decide +kernel

/-- An ignore file that is no text keeps a repository from being indexed, whichever reader decodes
it. -/
theorem bytes_stop_index :
    (∀ (ε : Type) (reader : Ignore.Reader ε), reader.Decodes → ¬ ∃ index,
      buildOn .plain reader (ruledTree ⟨#[0xFF]⟩) ⟨.root,[]⟩ "src" [".abap"] true = .ok index) ∧
    ∀ index, build (ruledTree ⟨#[0xFF]⟩) ⟨.root,[]⟩ "src" [".abap"] true ≠ .ok index := by
  have broken : String.fromUTF8? ⟨#[0xFF]⟩ = none := by decide +kernel
  have stops : ∀ (ε : Type) (reader : Ignore.Reader ε), reader.Decodes → ¬ ∃ index,
      buildOn .plain reader (ruledTree ⟨#[0xFF]⟩) ⟨.root,[]⟩ "src" [".abap"] true =
        .ok index := by
    rintro ε reader decodes ⟨index,built⟩
    obtain ⟨fault,failed⟩ := decodes ⟨.root,[]⟩ _ broken
    have present := Disk.isFolder_iff.mpr ⟨_,target?_ruledFolder ⟨#[0xFF]⟩⟩
    rw [← within_ruledFolder] at present
    rw [buildOn_of_breaks (.searched rfl present
      (.read rfl rfl (content_ruledTree _) rfl failed))] at built
    cases built
  exact ⟨stops,fun index built =>
    stops _ _ (Ignore.decodes_reader _) ⟨index,build_eq_ok_iff.mp built⟩⟩

/-- The rules in an ignore file of a tree, as the search takes them. -/
theorem ignoring_ruledTree {text : String} {rules : List Ignore.Rule}
    (decoded : String.fromUTF8? text.toUTF8 = some text)
    (parsed : Ignore.rulesOfText text = .ok rules) :
    SourceFiles.ignoring .plain (Ignore.reader (ruledTree text.toUTF8)) (ruledTree text.toUTF8)
        (some ⟨.root,[]⟩) =
      .ok fun path => (Ignore.ignoresFile rules ((ruledTree text.toUTF8).absolute ⟨.root,[]⟩)
        ((ruledTree text.toUTF8).absolute path)).mapError .raised := by
  have read : Ignore.rulesOf (ruledTree text.toUTF8) ⟨.root,[]⟩ = .ok rules := by
    rw [Ignore.rulesOf,content_ruledTree]
    simp only [decoded]
    exact parsed
  rw [SourceFiles.ignoring_plain,read]

def sealedHost : Host Ignore.Fault := { Host.plain with lists := fun _ => .error .refused }

theorem set_stops_index_once_reached :
    let built (host : Host Ignore.Fault) (rules : String) :=
      buildOn host (Ignore.reader (ruledTree rules.toUTF8)) (ruledTree rules.toUTF8) ⟨.root,[]⟩
        "src" [".abap"] true
    (∃ index, built .plain "*.abap\n[z-a]\n" = .ok index) ∧
    built .plain "[z-a]\n" = .error (.inl .badSet) ∧
    built sealedHost "[z-a]\n" = .ok { folder := "src" } := by
  intro built
  have present (rules : ByteArray) := Disk.isFolder_iff.mpr ⟨_,target?_ruledFolder rules⟩
  have settled (host : Host Ignore.Fault) (rules : String) := joined_ruledFolder ▸
    exists_buildOn_iff host (Ignore.reader (ruledTree rules.toUTF8)) (ruledTree rules.toUTF8)
      ⟨.root,[]⟩ (List.cons_ne_nil "src" []) (by decide +kernel) [".abap"] true
  have before : Ignore.rulesOfText "*.abap\n[z-a]\n" = .ok [⟨false,false,false,
      [.partOfName,.char '.',.char 'a',.char 'b',.char 'a',.char 'p']⟩,
      ⟨false,false,false,[.unusable]⟩] := by decide +kernel
  have alone : Ignore.rulesOfText "[z-a]\n" = .ok [⟨false,false,false,[.unusable]⟩] := by
    decide +kernel
  have decoded : String.fromUTF8? "*.abap\n[z-a]\n".toUTF8 = some "*.abap\n[z-a]\n" := by
    decide +kernel
  have ruled := ignoring_ruledTree decoded before
  have ignored : (Ignore.ignoresFile [⟨false,false,false,
      [.partOfName,.char '.',.char 'a',.char 'b',.char 'a',.char 'p']⟩,
      ⟨false,false,false,[.unusable]⟩]
      ((ruledTree "*.abap\n[z-a]\n".toUTF8).absolute ⟨.root,[]⟩)
      ((ruledTree "*.abap\n[z-a]\n".toUTF8).absolute
        ((Path.below ⟨.root,[]⟩ ["src"]).below ["zdemo.prog.abap"]))).mapError Stop.raised =
      .ok true := by decide +kernel
  have ruled' := ignoring_ruledTree (by decide +kernel) alone
  refine ⟨(settled .plain _).1.mpr ?_,(settled .plain _).2.1 _ ?_,(settled sealedHost _).2.2 rfl ?_⟩
  · rintro ⟨fault,breaks⟩
    cases breaks with
    | hidden asked => cases asked
    | searched _ _ stopped =>
      cases stopped with
      | read respected _ held _ failed =>
        cases respected
        cases (content_ruledTree _).symm.trans held
        simp only [Ignore.reader,decoded,before] at failed
        cases failed
      | searched again ends =>
        cases ruled.symm.trans again
        rw [visited_ruledFolder] at ends
        cases ends with
        | listing ended => cases ended
        | matching _ file => cases file
        | later _ ends =>
          cases ends with
          | listing ended => cases ended
          | later _ ends => cases ends
          | matching _ _ _ ended => exact absurd (ignored.symm.trans ended) (by simp)
  · refine .searched rfl (present _) (.searched ruled' ?_)
    rw [visited_ruledFolder]
    exact .later rfl (.matching rfl rfl (by decide +kernel) (by decide +kernel))
  · intro _
    refine .searched ruled' ?_
    rw [visited_ruledFolder]
    exact .listing rfl

end Example

end SourceIndex
end AbapAtlas
