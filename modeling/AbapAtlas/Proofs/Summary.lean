import AbapAtlas.Proofs.Answer
import AbapAtlas.Proofs.Catalogue
import AbapAtlas.Proofs.Layout
import AbapAtlas.Proofs.Publication
import AbapAtlas.Proofs.SettingsFile
import AbapAtlas.Proofs.SourceFolder

/-! What the summary of a report counts. Findings count as resolved by the path of their issue, so
one that is not located counts too if its fallback file happens to be one of the index. -/
namespace AbapAtlas
open Text

namespace Settings

inductive Accepted : Settings → Prop where
  | default : Accepted {}
  | checked {document : Datum} {settings : Settings} (passed : check document = .passed settings) :
      Accepted settings

theorem relative_of_head {text : String} (head : text.toList.head? ≠ some '/') :
    (Path.ofString text).isAbsolute = false := by
  have slashes : text.toList.takeWhile (· == '/') = [] := by
    cases letters : text.toList with
    | nil => rfl
    | cons c rest =>
      have other : c ≠ '/' := by
        rintro rfl
        exact head (by rw [letters]; rfl)
      simp [other]
  rw [Path.isAbsolute,Path.ofString,slashes]
  rfl

theorem Accepted.relative {settings : Settings} (accepted : settings.Accepted) :
    (Path.ofString settings.srcDir).isAbsolute = false := by
  cases accepted with
  | default => decide
  | @checked document _ passed =>
    cases document with
    | table fields =>
      have field := (check_passed passed).1
      rw [Fields.optional] at field
      split at field
      · next value _ =>
        cases checked : checkSrcDir value with
        | failed faults =>
          rw [checked] at field
          cases field
        | passed srcDir =>
          rw [checked] at field
          cases field
          obtain ⟨text,_,_,kept⟩ := checkSrcDir_passed checked
          refine relative_of_head fun slash => ?_
          rw [kept] at slash
          exact absurd (head?_trimBy slash) (by decide)
      · rw [Checked.passed.injEq] at field
        rw [← field]
        decide
    | _ => simp only [check,Checked.fault,reduceCtorEq] at passed

end Settings

theorem SettingsFile.accepted_of_load {disk : Disk} {root : Path} {settings : Settings}
    (loaded : load disk root = .ok settings) : settings.Accepted := by
  rw [load_eq] at loaded
  split at loaded
  · split at loaded
    · cases loaded
    · rw [ofBytes] at loaded
      split at loaded
      · next text _ =>
        rw [ofText] at loaded
        split at loaded
        · cases loaded
        · cases loaded
        · cases loaded
        · next document _ =>
          split at loaded
          · next passed =>
            cases loaded
            exact .checked passed
          · cases loaded
      · cases loaded
  · cases loaded
    exact .default

namespace SourceIndex
variable {disk : Disk} {root : Path} {srcDir : String} {extensions : List String}
  {respectIgnore : Bool} {index : SourceIndex}

/-- An index is that of the eligible files, each taken once. -/
theorem exists_catalogued (named : disk.Named)
    (relative : (Path.ofString srcDir).isAbsolute = false)
    (built : build disk root srcDir extensions respectIgnore = .ok index) :
    ∃ files placed, files.Nodup ∧
      (∀ names, names ∈ files ↔ Eligible disk root srcDir extensions respectIgnore names) ∧
      List.Forall₂ (Placed root (root.within (Path.ofString srcDir))) files placed ∧
      index.Catalogues (placed.map Path.joined) := by
  cases present : disk.isFolder (root.within (Path.ofString srcDir)) with
  | false =>
    rw [build_eq,present] at built
    cases built
    refine ⟨[],[],List.nodup_nil,fun names => ?_,.nil,catalogues_empty srcDir⟩
    constructor
    · intro member
      cases member
    · rintro ⟨⟨address,reached,_⟩,_,_⟩
      cases present.symm.trans (Disk.isFolder_iff.mpr ⟨address,reached⟩)
  | true =>
    obtain ⟨files,placed,found,mapped,rfl⟩ := exists_found_of_build built present
    have eligible := mem_found_iff_eligible found
    obtain ⟨ignored,rfl⟩ := SourceFiles.exists_find found
    have inside := inside_of_relative disk root relative extensions ignored
    exact ⟨_,placed,SourceFiles.nodup_find _ _ _ _,eligible,placed_of_find named inside mapped,
      catalogues_of_find named inside mapped⟩

/-- An index has one entry for each file name. -/
theorem size_eq_dedup {folder : Path} {files placed : List (List String)}
    (related : List.Forall₂ (Placed root folder) files placed)
    (catalogues : index.Catalogues (placed.map Path.joined)) :
    index.size = (files.map (·.getLastD "")).dedup.length := by
  have last : ∀ {names below}, Placed root folder names below →
      baseName (Path.joined below) = names.getLastD "" := by
    intro names below there
    rw [baseName_joined there]
    exact (Path.getLastD_of_below_eq there.nonempty there.some there.same).symm
  have same : ∀ file, file ∈ index.paths.map Prod.fst ↔
      file ∈ (files.map (·.getLastD "")).dedup := by
    intro file
    rw [mem_keys_iff,List.mem_dedup]
    refine (catalogues.defined file).trans ⟨?_,?_⟩
    · rintro ⟨path,member,rfl⟩
      obtain ⟨below,inside,rfl⟩ := List.mem_map.mp member
      obtain ⟨names,listed,there⟩ := exists_right_of_mem related.flip inside
      exact List.mem_map.mpr ⟨names,listed,(last there).symm⟩
    · intro member
      obtain ⟨names,listed,rfl⟩ := List.mem_map.mp member
      obtain ⟨below,inside,there⟩ := exists_right_of_mem related listed
      exact ⟨_,List.mem_map_of_mem inside,last there⟩
  have length := ((List.perm_ext_iff_of_nodup catalogues.keys (List.nodup_dedup _)).mpr
    same).length_eq
  rwa [List.length_map] at length

theorem baseName_append (before : String) {file : String} (written : Path.Written file) :
    baseName (before ++ "/" ++ file) = file := by
  have split : (before ++ "/" ++ file).toList = before.toList ++ '/' :: file.toList := by simp
  have kept : [file].filter (fun name => decide (name ≠ "" ∧ name ≠ ".")) = [file] :=
    List.filter_cons_of_pos (decide_eq_true ⟨written.nonempty,written.other⟩)
  rw [baseName,Path.ofString,split,cutAt_append_cons,cutAt_of_notMem written.whole]
  simp only [List.map_append,List.map_singleton,String.ofList_toList,List.filter_append]
  rw [kept,List.getLastD_concat]

end SourceIndex

namespace Issue
variable {disk : Disk} {root : Path} {srcDir : String} {extensions : List String}
  {respectIgnore : Bool} {index : SourceIndex}

theorem exists_fallbackPath (type name srcDir : String) : ∃ before,
    fallbackPath type name srcDir = before ++ "/" ++ Layout.fileName type name "abap" := by
  have file : lower type ++ "/" ++ lower name ++ "." ++ lower type ++ ".abap" =
      lower type ++ "/" ++ Layout.fileName type name "abap" := by
    rw [← String.toList_inj]
    simp [Layout.fileName]
  have some : lower type ++ "/" ++ Layout.fileName type name "abap" ≠ "" := by
    intro empty
    have letters := congrArg String.toList empty
    simp at letters
  rw [fallbackPath,file,Layout.under,if_neg some]
  split
  · exact ⟨lower type,rfl⟩
  · refine ⟨Layout.sourceFolder srcDir ++ "/" ++ lower type,?_⟩
    rw [← String.toList_inj]
    simp

/-- An object that has no file in the index, but a fallback path in it, has a slash in its type or
name; and its name does not start with one, as those of a namespace do. -/
theorem slash_of_indexed {files placed : List (List String)} {folder : Path}
    (related : List.Forall₂ (SourceIndex.Placed root folder) files placed)
    (catalogues : index.Catalogues (placed.map Path.joined)) {type name : String}
    (unknown : index.lookup (Layout.fileName type name "abap") = none)
    (indexed : fallbackPath type name srcDir ∈ index.paths.map Prod.snd) :
    ('/' ∈ type.toList ∨ '/' ∈ name.toList) ∧ name.toList.head? ≠ some '/' := by
  obtain ⟨before,split⟩ := exists_fallbackPath type name srcDir
  constructor
  · by_contra plain
    rw [not_or] at plain
    obtain ⟨entry,member,path⟩ := List.mem_map.mp indexed
    have file := catalogues.named entry member
    rw [path,split,SourceIndex.baseName_append _ (Layout.written_fileName plain.2 plain.1)] at file
    have known := mem_keys_iff.mp (List.mem_map_of_mem (f := Prod.fst) member)
    rw [file] at known
    rw [SourceIndex.lookup] at unknown
    rw [unknown] at known
    cases known
  · intro slash
    obtain ⟨rest,letters⟩ := List.head?_eq_some_iff.mp slash
    have lowered : ∃ more, (lower name).toList = '/' :: more := by
      rw [toList_lower,letters]
      exact ⟨_,rfl⟩
    obtain ⟨more,lowered⟩ := lowered
    -- Between the two slashes there would be an empty name.
    have empty : [] ∈ cutAt '/' (fallbackPath type name srcDir).toList := by
      have whole : (fallbackPath type name srcDir).toList = before.toList ++ '/' ::
          ([] ++ '/' :: (more ++ ("." ++ lower type ++ "." ++ "abap").toList)) := by
        rw [split,Layout.fileName]
        simp [lowered]
      rw [whole,cutAt_append_cons,cutAt_append_cons,cutAt_of_notMem List.not_mem_nil]
      simp
    have among := catalogues.partition.mem_iff.mp (List.mem_append_left _ indexed)
    obtain ⟨below,inside,path⟩ := List.mem_map.mp among
    obtain ⟨names,_,there⟩ := exists_right_of_mem related.flip inside
    rw [← path] at empty
    exact Layout.nil_notMem_cutAt_joined there.some there.written empty

end Issue

namespace Publication
open Disk

/-- Whether the path of a file in the index is given to a finding that is not located. -/
def mistaken (index : SourceIndex) (disk : Disk) (root : Path) (srcDir : String)
    (finding : Finding) : Bool :=
  !Issue.located (Resolver.ofIndex index disk) finding { base := some root } &&
    (index.paths.map Prod.snd).contains
      (Issue.fallbackPath finding.objectType finding.objectName srcDir)

section
variable {disk : Disk} {root : Path} {srcDir : String} {index : SourceIndex}

theorem contains_position {finding : Finding} {issue : Issue}
    (alone : Issue.alone index disk (some root) srcDir finding = .ok issue) :
    (index.paths.map Prod.snd).contains issue.position.path =
      (Issue.located (Resolver.ofIndex index disk) finding { base := some root } ||
        mistaken index disk root srcDir finding) := by
  obtain ⟨read,answer,there⟩ | ⟨read,answer,there⟩ := Issue.locatedBy_of_ofFinding alone
  · have located : Issue.located (Resolver.ofIndex index disk) finding { base := some root } =
        true := by
      rw [Issue.located,read]
      simp only [answer]
    obtain ⟨before,after,split,_⟩ :=
      List.lookup_eq_some_iff.mp (Resolver.file?_of_found answer)
    rw [located,Bool.true_or,List.contains_iff_mem,there,split]
    simp
  · have missed : Issue.located (Resolver.ofIndex index disk) finding { base := some root } =
        false := by
      rw [Issue.located,read]
      rcases answer with unknown | failed
      · simp only [unknown]
      · simp only [failed]
    rw [mistaken,missed,there,Bool.false_or,Bool.not_false,Bool.true_and]

/-- The entries with the path of an indexed file are those of located findings and of mistaken ones.
-/
theorem length_filter_eq {findings : List Finding} {issues : List Issue}
    (alone : List.Forall₂ (fun finding issue =>
      Issue.alone index disk (some root) srcDir finding = .ok issue) findings issues) :
    (issues.filter fun issue =>
        (index.paths.map Prod.snd).contains issue.position.path).length =
      findings.countP (fun finding =>
        Issue.located (Resolver.ofIndex index disk) finding { base := some root }) +
      findings.countP (mistaken index disk root srcDir) := by
  rw [← List.countP_eq_length_filter]
  induction alone with
  | nil => rfl
  | @cons finding issue _ _ first _ ih =>
    have apart : mistaken index disk root srcDir finding = true →
        Issue.located (Resolver.ofIndex index disk) finding { base := some root } = false := by
      intro wrong
      simpa using (Bool.and_eq_true_iff.mp wrong).1
    rw [List.countP_cons,List.countP_cons,List.countP_cons,contains_position first,ih]
    cases wrong : mistaken index disk root srcDir finding with
    | true =>
      rw [apart wrong]
      exact Nat.add_assoc _ _ _
    | false =>
      rw [Bool.or_false]
      exact Nat.add_right_comm _ _ _

/-- What is prepared are the issues of the findings alone and the index of the repository. -/
theorem prepare_ok {findings : Path} {settings : Settings} {maxWorkers : Option Int}
    {issues : List Issue}
    (prepared : prepare disk root findings settings maxWorkers = .ok (index,issues)) :
    ∃ run, FindingsFile.load disk findings = .ok run ∧ indexOf disk root settings = .ok index ∧
      List.Forall₂ (fun finding issue =>
        Issue.alone index disk (some root) settings.srcDir finding = .ok issue)
        run.findings issues := by
  rw [prepare] at prepared
  cases loaded : FindingsFile.load disk findings with
  | error fault =>
    rw [loaded] at prepared
    cases prepared
  | ok run =>
    cases built : indexOf disk root settings with
    | error fault =>
      rw [loaded,built] at prepared
      cases prepared
    | ok index' =>
      have result := Report.issues_eq index' settings.srcDir (workers maxWorkers settings)
        run.findings (Session.faithful_fresh disk (some root))
      cases made : (run.findings.map
          (Issue.alone index' disk (some root) settings.srcDir)).mapM id with
      | error error =>
        simp [loaded,built,result,made,Except.mapError,bind,Except.bind] at prepared
      | ok issues' =>
        simp only [loaded,built,result,made,Except.mapError,bind,Except.bind,pure,Except.pure,
          Except.ok.injEq,Prod.mk.injEq] at prepared
        obtain ⟨rfl,rfl⟩ := prepared
        rw [List.mapM_map] at made
        exact ⟨run,rfl,rfl,mapM_ok made⟩

theorem accepted_of_settingsFor {given : Option Settings} {settings : Settings}
    (accepted : ∀ settings, given = some settings → settings.Accepted)
    (chosen : settingsFor disk root given = .ok settings) : settings.Accepted := by
  cases given with
  | some other =>
    cases chosen
    exact accepted settings rfl
  | none =>
    rw [settingsFor] at chosen
    cases loaded : SettingsFile.load disk root with
    | error fault =>
      rw [loaded] at chosen
      cases chosen
    | ok other =>
      rw [loaded] at chosen
      cases chosen
      exact SettingsFile.accepted_of_load loaded

end

/-- That a summary counts the findings, the entries of the report, the located findings with the
mistaken ones, and the files of the index. -/
structure Counts (disk : Disk) (root : Path) (settings : Settings) (index : SourceIndex)
    (findings : List Finding) (later : Disk) (summary : Summary) : Prop where
  entries : ∃ issues address, List.Forall₂ (fun finding issue =>
      Issue.alone index disk (some root) settings.srcDir finding = .ok issue) findings issues ∧
    later.target? summary.report = some (address,.file
      (Json.write (.list (issues.map Issue.toDatum))).toUTF8) ∧
    summary.issueCount = findings.length ∧
    summary.issueCount = (issues.map Issue.toDatum).length
  resolved : summary.resolvedCount =
    findings.countP (fun finding =>
      Issue.located (Resolver.ofIndex index disk) finding { base := some root }) +
    findings.countP (mistaken index disk root settings.srcDir)
  resolved_iff : summary.resolvedCount = findings.countP (fun finding =>
      Issue.located (Resolver.ofIndex index disk) finding { base := some root }) ↔
    ∀ finding ∈ findings, mistaken index disk root settings.srcDir finding = false
  slashed : ∀ finding ∈ findings, mistaken index disk root settings.srcDir finding = true →
    ('/' ∈ finding.objectType.toList ∨ '/' ∈ finding.objectName.toList) ∧
      finding.objectName.toList.head? ≠ some '/'
  files : ∃ files : List (List String), files.Nodup ∧
    (∀ names, names ∈ files ↔ SourceIndex.Eligible disk root settings.srcDir settings.extensions
      settings.respectIgnore names) ∧
    summary.indexedFiles = (files.map (·.getLastD "")).dedup.length ∧
    summary.indexedFiles + summary.collisionCount = files.length

/-- The summary of a published report counts what happened, but for findings that are not located
and whose fallback path is that of a file in the index: these count as resolved. -/
theorem summary_counts {disk later : Disk} {root findings : Path} {report : Option Path}
    {given : Option Settings} {maxWorkers : Option Int} {summary : Summary}
    (named : disk.Named) (accepted : ∀ settings, given = some settings → settings.Accepted)
    (done : generate disk root findings report given maxWorkers = (later,.ok summary)) :
    ∃ settings run index, settingsFor disk root given = .ok settings ∧
      FindingsFile.load disk findings = .ok run ∧ indexOf disk root settings = .ok index ∧
      Counts disk root settings index run.findings later summary := by
  rw [generate_eq] at done
  cases chosen : settingsFor disk root given with
  | error fault =>
    rw [chosen] at done
    cases done
  | ok settings =>
    rw [chosen] at done
    obtain ⟨_,fault,failed,_⟩ | ⟨index,issues,_,address,prepared,made,_,replaced⟩ :=
      publish_cases disk root findings report maxWorkers settings
    · cases failed.symm.trans done
    · cases made.symm.trans done
      obtain ⟨run,loaded,built,alone⟩ := prepare_ok prepared
      have relative := (accepted_of_settingsFor accepted chosen).relative
      obtain ⟨files,placed,distinct,listed,related,catalogues⟩ :=
        SourceIndex.exists_catalogued named relative built
      have length := alone.length_eq
      have resolved := length_filter_eq alone
      refine ⟨settings,run,index,rfl,loaded,built,?_,resolved,?_,?_,?_⟩
      · refine ⟨issues,address,alone,replaced.reached,length.symm,?_⟩
        exact (List.length_map _).symm
      · rw [summaryOf,resolved,Nat.add_eq_left,List.countP_eq_zero]
        simp only [Bool.not_eq_true]
      · intro finding member wrong
        obtain ⟨issue,_,first⟩ := exists_right_of_mem alone member
        rw [mistaken,Bool.and_eq_true,Bool.not_eq_true',List.contains_iff_mem] at wrong
        -- What is not located has no file of its own in the index.
        have readable := (Issue.exists_ofFinding_iff.mp ⟨issue,first⟩).readable
        obtain ⟨line,read⟩ := Location.exists_startLine_iff.mpr readable
        have unknown := wrong.1
        rw [Issue.located_eq named built read,Option.isSome_eq_false_iff,
          Option.isNone_iff_eq_none] at unknown
        exact Issue.slash_of_indexed related catalogues unknown wrong.2
      · refine ⟨files,distinct,listed,SourceIndex.size_eq_dedup related catalogues,?_⟩
        have total := catalogues.size_add_length
        rw [List.length_map,← related.length_eq] at total
        exact total

section Example
open Report

def slashedText : String :=
  "[\x7b\"checkId\":\"C\",\"priority\":1,\"objectType\":\"CLAS\",\"objectName\":\"DEMO/ZCL_A\"\x7d]"

def slashedTree : Disk where
  entries := [(["src"],.folder),(["src","clas"],.folder),(["src","clas","demo"],.folder),
    (["src","clas","demo","zcl_a.clas.abap"],.file "CLASS zcl_a DEFINITION.\n".toUTF8),
    (["f.json"],.file slashedText.toUTF8)]

def slashedFinding : Finding where
  checkId := "C"
  checkTitle := ""
  messageId := none
  priority := 1
  messageText := ""
  objectUri := none
  objectType := "CLAS"
  objectName := "DEMO/ZCL_A"
  location := none
  findingUri := none

def slashedIndex : SourceIndex where
  folder := "src"
  paths := [("zcl_a.clas.abap","src/clas/demo/zcl_a.clas.abap")]

def slashedIssue : Issue where
  description := ""
  checkName := "C"
  fingerprint := "C-DEMO/ZCL_A-1"
  severity := .blocker
  position := ⟨"src/clas/demo/zcl_a.clas.abap",1⟩
  method := none
  location := none

def rootFile (name : String) : Path := ⟨.root,[name]⟩

theorem locate_rootFile {name : String} (whole : (rootFile name).hasNull = false)
    (downward : name ≠ Path.parent) (absent : slashedTree.get? [name] = none) :
    slashedTree.locate true (rootFile name) = .ok (.vacant [] name) := by
  rw [locate,whole,if_neg Bool.false_ne_true]
  exact walk_vacant downward absent

theorem load_slashedFindings : FindingsFile.load slashedTree (rootFile "f.json") =
    .ok (FindingsFile.runOf [slashedFinding]) := by
  have reached : slashedTree.target? (rootFile "f.json") =
      some (["f.json"],.file slashedText.toUTF8) :=
    target?_eq_some_iff.mpr ⟨by decide,walk_file (by decide) rfl⟩
  have content := content_of_target? reached
  simp only [FindingsFile.load,content]
  decide +kernel

theorem load_slashedSettings : SettingsFile.load slashedTree sampleRoot = .ok {} := by
  have nothing : slashedTree.locate true (sampleRoot.below [SettingsFile.fileName]) =
      .ok (.vacant [] SettingsFile.fileName) := locate_rootFile (by decide) (by decide) rfl
  have absent : slashedTree.isFile (sampleRoot.below [SettingsFile.fileName]) = false := by
    rw [isFile,target?,nothing]
  rw [SettingsFile.load_eq,absent]
  rfl

theorem indexOf_slashed : indexOf slashedTree sampleRoot {} = .ok slashedIndex := by
  have folder : sampleRoot.within (Path.ofString "src") = ⟨.root,["src"]⟩ := by decide +kernel
  have reached : slashedTree.target? ⟨.root,["src"]⟩ = some (["src"],.folder) := by
    refine target?_eq_some_iff.mpr ⟨by decide,?_⟩
    change slashedTree.walk true linkLimit [] ["src"] = _
    rw [walk_folder (by decide) rfl,walk]
    rfl
  have present : slashedTree.isFolder ⟨.root,["src"]⟩ = true := isFolder_iff.mpr ⟨_,reached⟩
  have nothing : slashedTree.locate true (sampleRoot.below [Ignore.fileName]) =
      .ok (.vacant [] Ignore.fileName) := locate_rootFile (by decide) (by decide) rfl
  have rules : Ignore.rulesOf slashedTree sampleRoot = .ok [] := by
    rw [Ignore.rulesOf,content,nothing]
    rfl
  have candidates : SourceFiles.candidates slashedTree ⟨.root,["src"]⟩
      SourceFiles.defaultExtensions = [["clas","demo","zcl_a.clas.abap"]] := by
    rw [SourceFiles.candidates,reached]
    decide +kernel
  have found : SourceFiles.findUnder slashedTree (some sampleRoot) ⟨.root,["src"]⟩
      SourceFiles.defaultExtensions = .ok [["clas","demo","zcl_a.clas.abap"]] := by
    simp [SourceFiles.findUnder,rules,SourceFiles.find,candidates,Ignore.ignoresFile,Except.map,
      Except.toOption,bind,Except.bind,pure,Except.pure]
  have placed : SourceIndex.repositoryNames sampleRoot ⟨.root,["src"]⟩
      [["clas","demo","zcl_a.clas.abap"]] =
        .ok [["src","clas","demo","zcl_a.clas.abap"]] := by decide +kernel
  change SourceIndex.build slashedTree sampleRoot "src" SourceFiles.defaultExtensions true = _
  rw [SourceIndex.build_eq,folder,if_pos present]
  simp only [if_true,found,Except.mapError,bind,Except.bind,placed]
  decide +kernel

theorem prepare_slashed : prepare slashedTree sampleRoot (rootFile "f.json") {} none =
    .ok (slashedIndex,[slashedIssue]) := by
  have read : Location.startLine (slashedFinding.location.getD "") = .ok 1 := by decide +kernel
  have file : (Issue.queryOf slashedFinding (1 : Nat)).file? slashedIndex = none := by
    decide +kernel
  have alone : Issue.alone slashedIndex slashedTree (some sampleRoot) "src" slashedFinding =
      .ok slashedIssue := by
    rw [Issue.alone,Issue.ofFinding_ofIndex _ _ _ read,Query.resolve_of_unknown file]
    decide +kernel
  have made := Report.issues_eq slashedIndex "src" (workers none {}) [slashedFinding]
    (Session.faithful_fresh slashedTree (some sampleRoot))
  rw [List.map_singleton,alone] at made
  simp only [prepare,load_slashedFindings,indexOf_slashed,FindingsFile.runOf,Except.mapError,bind,
    Except.bind,made,pure,Except.pure,List.mapM_cons,List.mapM_nil,id]

theorem writeReport_slashed :
    Repository.writeReport slashedTree (rootFile "gl-code-quality-report.json") [slashedIssue] =
      (slashedTree.put ["gl-code-quality-report.json"] (.file
        (Json.write (.list [slashedIssue.toDatum])).toUTF8),none) := by
  have top : ∀ last, slashedTree.walk last linkLimit [] [] = .ok (.at [] .folder) := by
    intro last
    rw [walk]
  have folder : slashedTree.isFolder sampleRoot = true :=
    isFolder_iff.mpr ⟨[],target?_eq_some_iff.mpr ⟨by decide,top true⟩⟩
  have located : slashedTree.locate false sampleRoot = .ok (.at [] .folder) := by
    rw [locate,if_neg (by decide)]
    exact top false
  have above : slashedTree.makeFolders (rootFile "gl-code-quality-report.json").folder =
      (slashedTree,none) := makeFolders_of_folder located folder
  have fits : Json.fits (.list [slashedIssue.toDatum]) = true := by decide +kernel
  have found : slashedTree.locate true (rootFile "gl-code-quality-report.json") =
      .ok (.vacant [] "gl-code-quality-report.json") :=
    locate_rootFile (by decide) (by decide) rfl
  have file := writeFile_of_free found trivial
    (Json.write (.list [slashedIssue.toDatum])).toUTF8
  simp only [Repository.writeReport_eq,above,Repository.writeRecords_eq,List.map_singleton,fits,if_true,
    file]
  rfl

theorem generate_slashed :
    generate slashedTree sampleRoot (rootFile "f.json") none none none =
      (slashedTree.put ["gl-code-quality-report.json"] (.file
          (Json.write (.list [slashedIssue.toDatum])).toUTF8),
        .ok ⟨1,1,1,0,rootFile "gl-code-quality-report.json"⟩) := by
  have path : reportPath sampleRoot none {} = rootFile "gl-code-quality-report.json" := by
    decide +kernel
  have counted : summaryOf slashedIndex [slashedIssue] (rootFile "gl-code-quality-report.json") =
      ⟨1,1,1,0,rootFile "gl-code-quality-report.json"⟩ := by decide +kernel
  rw [generate,publishWithFile,load_slashedSettings]
  simp only [publish,prepare_slashed,path,writeReport_slashed,counted]

/-- A finding that the resolver does not locate is counted as resolved. -/
theorem slashed_counted_as_resolved : ∃ later summary,
    generate slashedTree sampleRoot (rootFile "f.json") none none none = (later,.ok summary) ∧
    FindingsFile.load slashedTree (rootFile "f.json") =
      .ok (FindingsFile.runOf [slashedFinding]) ∧
    SettingsFile.load slashedTree sampleRoot = .ok {} ∧
    indexOf slashedTree sampleRoot {} = .ok slashedIndex ∧
    summary.resolvedCount = 1 ∧
    [slashedFinding].countP (fun finding =>
      Issue.located (Resolver.ofIndex slashedIndex slashedTree) finding
        { base := some sampleRoot }) = 0 := by
  have named : slashedTree.Named := by decide +kernel
  have read : Location.startLine (slashedFinding.location.getD "") = .ok 1 := by decide +kernel
  have missed : Issue.located (Resolver.ofIndex slashedIndex slashedTree) slashedFinding
      { base := some sampleRoot } = false := by
    rw [Issue.located_eq named indexOf_slashed read]
    decide +kernel
  refine ⟨_,_,generate_slashed,load_slashedFindings,load_slashedSettings,indexOf_slashed,rfl,?_⟩
  rw [List.countP_singleton,missed]
  rfl

theorem slashed_counts : slashedTree.Named ∧ ∃ later summary,
    generate slashedTree sampleRoot (rootFile "f.json") none none none = (later,.ok summary) ∧
    ∃ settings run index, settingsFor slashedTree sampleRoot none = .ok settings ∧
      FindingsFile.load slashedTree (rootFile "f.json") = .ok run ∧
      indexOf slashedTree sampleRoot settings = .ok index ∧
      Counts slashedTree sampleRoot settings index run.findings later summary := by
  have named : slashedTree.Named := by decide +kernel
  have accepted : ∀ settings, (none : Option Settings) = some settings → settings.Accepted := by
    intro settings none
    cases none
  exact ⟨named,_,_,generate_slashed,summary_counts named accepted generate_slashed⟩

end Example
end Publication

end AbapAtlas
