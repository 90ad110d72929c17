import AbapAtlas.Proofs.Layout
import AbapAtlas.Proofs.SourceIndex
import AbapAtlas.Proofs.Report
import AbapAtlas.Repository
import Mathlib.Data.List.Nodup

/-! Placing objects and finding them again. The plan of an import and the resolver work from
different ends, the one from package hierarchies and the other from a file tree, and agree on where
every object is. -/
namespace AbapAtlas
open Text

def Disk.Holds (disk : Disk) (folder : Address) (path : String) : Prop :=
  disk.throughFolders folder (Path.ofString path).names = true ∧
    ∃ content, disk.get? (folder ++ (Path.ofString path).names) = some (.file content)

def ImportedObject.sourceFile (object : ImportedObject) : String :=
  Layout.fileName object.objectType object.objectName object.extension

structure ImportedObject.Placeable (logic : FolderLogic) (object : ImportedObject) : Prop where
  source : object.extension = "abap"
  other : upper object.objectType ≠ "DEVC"
  type : '/' ∉ object.objectType.toList
  name : '/' ∉ object.objectName.toList
  folders : ∀ name ∈ Layout.folders logic object.packages, Path.Written name

theorem SourceFiles.hasExtension_fileName {extensions : List String} (wanted : ".abap" ∈ extensions)
    (type name : String) :
    SourceFiles.hasExtension extensions (Layout.fileName type name "abap") = true := by
  refine List.any_eq_true.mpr ⟨".abap",wanted,?_⟩
  obtain ⟨front,lowered⟩ := lowerAfter_append false
    ((lower name).toList ++ '.' :: (lower type).toList) ".abap".toList
    (List.all_iff_forall_prop.mp (by decide))
  have ends : (Layout.fileName type name "abap").toList =
      (lower name).toList ++ '.' :: (lower type).toList ++ ".abap".toList := by
    simp [Layout.fileName]
  have small : lower ".abap" = ".abap" := by decide
  rw [List.isSuffixOf_iff_suffix,small,toList_lower,ends,lowered]
  exact List.suffix_append _ _

namespace ImportedObject
variable {logic : FolderLogic} {object : ImportedObject} {srcDir : String} {names : List String}

def fileNames (logic : FolderLogic) (object : ImportedObject) : List String :=
  Layout.folders logic object.packages ++ [object.sourceFile]

theorem getLastD_fileNames (logic : FolderLogic) (object : ImportedObject) :
    (object.fileNames logic).getLastD "" = object.sourceFile := by
  rw [fileNames,List.getLastD_concat]

theorem fileNames_ne_nil (logic : FolderLogic) (object : ImportedObject) :
    object.fileNames logic ≠ [] :=
  List.append_ne_nil_of_right_ne_nil _ (List.cons_ne_nil _ _)

theorem Placeable.written (placeable : object.Placeable logic) :
    ∀ name ∈ object.fileNames logic, Path.Written name := by
  intro name member
  rcases List.mem_append.mp member with above | file
  · exact placeable.folders name above
  · rw [List.mem_singleton.mp file,sourceFile,placeable.source]
    exact Layout.written_fileName placeable.name placeable.type

theorem Placeable.path_eq (placeable : object.Placeable logic)
    (folder : Layout.SourceFolder srcDir names) :
    (ImportPlan.place srcDir logic object).path = Path.joined (names ++ object.fileNames logic) := by
  have file := Layout.written_fileName placeable.name placeable.type
  have path := Layout.filePath_eq_joined folder placeable.folders placeable.other file
  rw [ImportPlan.place,fileNames,sourceFile,placeable.source,path,List.append_assoc]

theorem Placeable.ofString_path (placeable : object.Placeable logic)
    (folder : Layout.SourceFolder srcDir names) :
    Path.ofString (ImportPlan.place srcDir logic object).path =
      ⟨.relative,names ++ object.fileNames logic⟩ := by
  rw [placeable.path_eq folder]
  refine Path.ofString_joined ?_ ?_
  · exact List.append_ne_nil_of_right_ne_nil _ (object.fileNames_ne_nil logic)
  · intro name member
    rcases List.mem_append.mp member with above | below
    · exact folder.written name above
    · exact placeable.written name below

end ImportedObject

namespace ImportPlan

/-- A file tree that holds what is planned: every planned file, and below the source folder no
other one with the name of one of them. -/
structure Fulfilled (disk : Disk) (root : Address) (names : List String)
    (objects : List ImportedObject) (plan : ImportPlan) : Prop where
  present : ∀ file ∈ plan.files, disk.Holds root file.path
  alone : ∀ below ∈ disk.filesBelow (root ++ names),
    below.getLastD "" ∈ objects.map ImportedObject.sourceFile →
      ∃ file ∈ plan.files, Path.joined (names ++ below) = file.path

section
variable {disk : Disk} {root : Path} {address : Address} {srcDir : String} {names : List String}
variable {logic : FolderLogic} {objects : List ImportedObject} {object : ImportedObject}

theorem entryName_of_holds (named : disk.Named) (placeable : object.Placeable logic)
    (folder : Layout.SourceFolder srcDir names)
    (holds : disk.Holds address (place srcDir logic object).path) :
    (∀ name ∈ names ++ object.fileNames logic, Disk.EntryName name) ∧
    disk.throughFolders address (names ++ object.fileNames logic) = true ∧
    ∃ content, disk.get? (address ++ (names ++ object.fileNames logic)) =
      some (.file content) := by
  obtain ⟨through,content,entry⟩ := holds
  rw [placeable.ofString_path folder] at through entry
  refine ⟨?_,through,content,entry⟩
  intro name member
  refine named _ (Disk.mem_of_found ?_ entry) name (List.mem_append_right _ member)
  exact List.append_ne_nil_of_right_ne_nil _
    (List.append_ne_nil_of_right_ne_nil _ (object.fileNames_ne_nil logic))

/-- The file of a planned object is eligible, and no other eligible file has its name. -/
theorem eligible_of_fulfilled (named : disk.Named)
    (rooted : disk.target? root = some (address,.folder))
    (folder : Layout.SourceFolder srcDir names)
    (placeable : ∀ object ∈ objects, object.Placeable logic)
    (distinct : (objects.map ImportedObject.sourceFile).Nodup)
    (fulfilled : Fulfilled disk address names objects ⟨logic,objects.map (place srcDir logic)⟩)
    {extensions : List String} (wanted : ".abap" ∈ extensions) (member : object ∈ objects) :
    SourceIndex.Eligible disk root srcDir extensions false (object.fileNames logic) ∧
    ∀ other, SourceIndex.Eligible disk root srcDir extensions false other →
      other.getLastD "" = object.sourceFile → other = object.fileNames logic := by
  have proper := placeable object member
  obtain ⟨entryNames,through,content,entry⟩ := entryName_of_holds named proper folder
    (fulfilled.present _ (List.mem_map_of_mem member))
  have reached : disk.target? (root.within (Path.ofString srcDir)) =
      some (address ++ names,.folder) := by
    rw [folder.within]
    exact Disk.target?_folderBelow rooted (object.fileNames_ne_nil logic)
      (fun name inside => entryNames name (List.mem_append_left _ inside)) through
  have through' := (Disk.walk_throughFolders 0 (object.fileNames_ne_nil logic)
    (fun name inside => (entryNames name (List.mem_append_left _ inside)).downward) through).2
  refine ⟨⟨⟨_,reached,?_⟩,?_,?_⟩,?_⟩
  · refine Disk.mem_filesBelow_iff.mpr ⟨object.fileNames_ne_nil logic,through',content,?_⟩
    rw [List.append_assoc]
    exact entry
  · rw [object.getLastD_fileNames,ImportedObject.sourceFile,proper.source]
    exact SourceFiles.hasExtension_fileName wanted _ _
  · intro root none
    cases none
  · intro other eligible last
    obtain ⟨place',reached',inside⟩ := eligible.placed
    cases reached.symm.trans reached'
    obtain ⟨file,planned,same⟩ := fulfilled.alone other inside
      (last ▸ List.mem_map_of_mem member)
    obtain ⟨object',member',rfl⟩ := List.mem_map.mp planned
    -- A path is made of its names in one way only, so this is the file of an object of that name.
    have proper' := placeable object' member'
    have written : ∀ name ∈ names ++ other, Path.Written name := by
      intro name inside'
      rcases List.mem_append.mp inside' with above | below
      · exact folder.written name above
      · obtain ⟨_,entryNames',_⟩ := SourceIndex.file_of_eligible named eligible
        exact (entryNames' name below).written
    have nonempty : names ++ other ≠ [] :=
      List.append_ne_nil_of_right_ne_nil _ (Disk.mem_filesBelow_iff.mp inside).1
    have path := congrArg Path.ofString same
    rw [Path.ofString_joined nonempty written,proper'.ofString_path folder] at path
    have others : other = object'.fileNames logic :=
      List.append_cancel_left (congrArg Path.names path)
    rw [others,object'.getLastD_fileNames] at last
    rw [others,List.inj_on_of_nodup_map distinct member' member last]

theorem exists_found {query : Query} {index : SourceIndex} {session : Session} {path : String}
    {content : ByteArray} (reachable : Session.Reachable disk (some root) session)
    (file : query.file? index = some path)
    (read : disk.content (root.within (Path.ofString path)) = .ok content) :
    ∃ line, (Resolver.ofIndex index disk query session).1 = .found ⟨path,line⟩ := by
  obtain ⟨faithful,based⟩ := reachable.faithful
  rw [Resolver.ofIndex_eq]
  cases counted : LinePlacement.countsFromMethod path with
  | false =>
    rw [Query.resolve_of_uncounted file counted]
    exact ⟨_,rfl⟩
  | true =>
    rw [Query.resolve_of_counted file counted,(faithful.blocksOf path).1,Session.fullPath,based,
      Session.readBlocks,Session.readLines_eq]
    simp only [read]
    exact ⟨_,rfl⟩

/-- What is planned is looked up by the name of its file. -/
theorem lookup_planned (named : disk.Named) (rooted : disk.target? root = some (address,.folder))
    (folder : Layout.SourceFolder srcDir names)
    (placeable : ∀ object ∈ objects, object.Placeable logic)
    (distinct : (objects.map ImportedObject.sourceFile).Nodup)
    (fulfilled : Fulfilled disk address names objects ⟨logic,objects.map (place srcDir logic)⟩)
    {extensions : List String} (wanted : ".abap" ∈ extensions) {index : SourceIndex}
    (built : SourceIndex.build disk root srcDir extensions false = .ok index)
    (member : object ∈ objects) :
    index.lookup object.sourceFile = some (place srcDir logic object).path ∧
      ∃ content, disk.content (root.within
        (Path.ofString (place srcDir logic object).path)) = .ok content := by
  have proper := placeable object member
  obtain ⟨eligible,only⟩ := eligible_of_fulfilled named rooted folder placeable distinct fulfilled
    wanted member
  rw [← object.getLastD_fileNames logic] at only
  obtain ⟨below,same,_,found⟩ := SourceIndex.lookup_of_only named
    (Disk.isFolder_iff.mpr ⟨_,rooted⟩) built eligible only
  have whole : root.below (names ++ object.fileNames logic) = root.below below := by
    rw [← same,folder.within]
    simp [Path.below]
  have chain : names ++ object.fileNames logic = below :=
    List.append_cancel_left (congrArg Path.names whole)
  obtain ⟨_,_,_,content,target⟩ := SourceIndex.file_of_eligible named eligible
  rw [same,← whole] at target
  refine ⟨?_,content,?_⟩
  · rw [proper.path_eq folder,chain,← object.getLastD_fileNames logic]
    exact found
  · rw [proper.ofString_path folder]
    exact Disk.content_of_target? target

/-- Every object is found where an import has planned it, in whatever case it is asked for: if the
file tree holds what is planned, a resolver for it answers with the planned path. -/
theorem found_where_planned {before : Disk} (named : disk.Named)
    (rooted : disk.target? root = some (address,.folder))
    (folder : Layout.SourceFolder srcDir names) (override configured : Option FolderLogic)
    (placeable : ∀ object ∈ objects,
      object.Placeable (make before root objects override configured srcDir).logic)
    (distinct : (objects.map ImportedObject.sourceFile).Nodup)
    (fulfilled : Fulfilled disk address names objects
      (make before root objects override configured srcDir))
    {extensions : List String} (wanted : ".abap" ∈ extensions) :
    ∃ index, SourceIndex.build disk root srcDir extensions false = .ok index ∧
      ∀ file ∈ (make before root objects override configured srcDir).files, ∀ query : Query,
        SameLetters query.objectType.toList file.objectType.toList →
        SameLetters query.objectName.toList file.objectName.toList →
        ∀ session, Session.Reachable disk (some root) session →
          ∃ line, (Resolver.ofIndex index disk query session).1 = .found ⟨file.path,line⟩ := by
  obtain ⟨index,built⟩ := SourceIndex.exists_build disk root extensions
    (show (Path.ofString srcDir).isAbsolute = false by rw [folder.ofString]; rfl)
  refine ⟨index,built,?_⟩
  intro file planned query type name session reachable
  obtain ⟨object,member,rfl⟩ := List.mem_map.mp planned
  obtain ⟨found,content,read⟩ := lookup_planned named rooted folder placeable distinct fulfilled
    wanted built member
  refine exists_found reachable ?_ read
  rw [ImportedObject.sourceFile,(placeable object member).source,Layout.fileName] at found
  rw [Query.file?,Layout.fileName,lower_eq_of_sameLetters name,lower_eq_of_sameLetters type]
  exact found

end

section Example

def plannedDisk : Disk where
  entries := [(["src"],.folder),(["src","child"],.folder),
    (["src","child","zcl_a.clas.abap"],.file .empty),(["src","zdemo.prog.abap"],.file .empty)]

def plannedObjects : List ImportedObject :=
  [⟨"CLAS","ZCL_A",["ZROOT","ZROOT_CHILD"],"abap"⟩,⟨"PROG","ZDEMO",["ZROOT"],"abap"⟩]

theorem files_plannedObjects :
    (make plannedDisk ⟨.root,[]⟩ plannedObjects (some .short) none "src").files =
      [⟨"CLAS","ZCL_A","src/child/zcl_a.clas.abap"⟩,⟨"PROG","ZDEMO","src/zdemo.prog.abap"⟩] := by
  decide +kernel

theorem fulfilled_plannedDisk : Fulfilled plannedDisk [] ["src"] plannedObjects
    (make plannedDisk ⟨.root,[]⟩ plannedObjects (some .short) none "src") := by
  constructor
  · rw [files_plannedObjects]
    intro file member
    rcases List.mem_cons.mp member with rfl | member
    · exact ⟨by decide,_,rfl⟩
    · rw [List.mem_singleton.mp member]
      exact ⟨by decide,_,rfl⟩
  · rw [files_plannedObjects]
    decide +kernel

theorem class_found_in_child : ∃ index line,
    SourceIndex.build plannedDisk ⟨.root,[]⟩ "src" [".abap"] false = .ok index ∧
    (Resolver.ofIndex index plannedDisk ⟨"clas","zcl_a",1,none⟩ { base := some ⟨.root,[]⟩ }).1 =
      .found ⟨"src/child/zcl_a.clas.abap",line⟩ := by
  have rooted : plannedDisk.target? ⟨.root,[]⟩ = some ([],.folder) := by
    refine Disk.target?_eq_some_iff.mpr ⟨by decide,?_⟩
    rw [Disk.walk]
    rfl
  have folder : Layout.SourceFolder "src" ["src"] := by
    rw [← Path.joined_singleton "src"]
    exact .below (by decide) (by decide)
  have placeable : ∀ object ∈ plannedObjects, object.Placeable .short := by
    intro object member
    rcases List.mem_cons.mp member with rfl | member
    · exact ⟨by decide,by decide,by decide,by decide,by decide⟩
    · rw [List.mem_singleton.mp member]
      exact ⟨by decide,by decide,by decide,by decide,by decide⟩
  have distinct : (plannedObjects.map ImportedObject.sourceFile).Nodup := by decide +kernel
  have planned : (⟨"CLAS","ZCL_A","src/child/zcl_a.clas.abap"⟩ : PlannedFile) ∈
      (make plannedDisk ⟨.root,[]⟩ plannedObjects (some .short) none "src").files := by
    rw [files_plannedObjects]
    exact List.mem_cons_self
  obtain ⟨index,built,found⟩ := found_where_planned (by decide) rooted folder (some .short) none
    placeable distinct fulfilled_plannedDisk (List.mem_singleton_self ".abap")
  obtain ⟨line,answer⟩ := found _ planned ⟨"clas","zcl_a",1,none⟩ (by decide +kernel)
    (by decide +kernel) _ .fresh
  exact ⟨index,line,built,answer⟩

end Example

end ImportPlan
end AbapAtlas
