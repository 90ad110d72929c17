import AbapAtlas.MethodBlock
import AbapAtlas.Proofs.Json.Reader
import AbapAtlas.Proofs.Publication

/-! Records that are written to a file and read again. What the file contains then is the list of
their documents, with every text as it was and no field for what a record does not have. -/
namespace AbapAtlas

theorem Datum.field?_eq_none {fields : List (String × Datum)} {key : String}
    (foreign : key ∉ fields.map Prod.fst) : (Datum.table fields).field? key = none := by
  rw [field?,List.lookup_eq_none_iff]
  intro field member
  rw [bne_iff_ne]
  rintro rfl
  exact foreign (List.mem_map_of_mem member)

def Disk.Contains (disk : Disk) (path : Path) (document : Datum) : Prop :=
  ∃ content, disk.content path = .ok content ∧ Json.readBytes? content = some document

structure ReportEntry where
  -- An entry of a report as its format has it. An issue of a finding lies on a single line.
  description : String
  checkName : String
  fingerprint : String
  severity : Severity
  path : String
  firstLine : Int
  lastLine : Int
  method : Option String
  location : Option String

namespace ReportEntry

def ofIssue (issue : Issue) : ReportEntry where
  description := issue.description
  checkName := issue.checkName
  fingerprint := issue.fingerprint
  severity := issue.severity
  path := issue.position.path
  firstLine := issue.position.line
  lastLine := issue.position.line
  method := issue.method
  location := issue.location

def optionalField (key : String) (value : Option String) : List (String × Datum) :=
  (value.map fun text => (key,Datum.text text)).toList

def place (entry : ReportEntry) : Datum :=
  .table [("path",.text entry.path),
    ("lines",.table [("begin",.int entry.firstLine),("end",.int entry.lastLine)])]

def toDatum (entry : ReportEntry) : Datum :=
  .table ([("description",.text entry.description),("check_name",.text entry.checkName),
      ("fingerprint",.text entry.fingerprint),("severity",.text entry.severity.name),
      ("location",entry.place)] ++
    optionalField "method" entry.method ++ optionalField "atc_location" entry.location)

theorem toDatum_ofIssue (issue : Issue) : (ofIssue issue).toDatum = issue.toDatum := by
  obtain ⟨description,checkName,fingerprint,severity,position,method,location⟩ := issue
  cases method <;> cases location <;> rfl

structure Fits (entry : ReportEntry) : Prop where
  firstLine : Json.fitsInt entry.firstLine = true
  lastLine : Json.fitsInt entry.lastLine = true

/-- A document tells an entry: its fields have exactly what the entry has, a method or a location
has a field if and only if it is known, and there is no other field. -/
structure Tells (document : Datum) (entry : ReportEntry) : Prop where
  description : document.field? "description" = some (.text entry.description)
  checkName : document.field? "check_name" = some (.text entry.checkName)
  fingerprint : document.field? "fingerprint" = some (.text entry.fingerprint)
  severity : document.field? "severity" = some (.text entry.severity.name)
  location : document.field? "location" = some (.table [("path",.text entry.path),
    ("lines",.table [("begin",.int entry.firstLine),("end",.int entry.lastLine)])])
  method : document.field? "method" = entry.method.map .text
  atcLocation : document.field? "atc_location" = entry.location.map .text
  others : ∀ key, key ∉ ["description","check_name","fingerprint","severity","location","method",
    "atc_location"] → document.field? key = none

theorem optionalField_keys (key : String) (value : Option String) :
    ((optionalField key value).map Prod.fst).Sublist [key] := by
  cases value with
  | none => exact List.nil_sublist _
  | some text => exact List.Sublist.refl _

theorem keys_toDatum (entry : ReportEntry) : ∃ fields, entry.toDatum = .table fields ∧
    (fields.map Prod.fst).Sublist ["description","check_name","fingerprint","severity","location",
      "method","atc_location"] := by
  refine ⟨_,rfl,?_⟩
  rw [List.map_append,List.map_append]
  exact ((List.Sublist.refl _).append (optionalField_keys _ _)).append (optionalField_keys _ _)

theorem tells_toDatum (entry : ReportEntry) : Tells entry.toDatum entry := by
  have others : ∀ key, key ∉ ["description","check_name","fingerprint","severity","location",
      "method","atc_location"] → entry.toDatum.field? key = none := by
    intro key foreign
    obtain ⟨fields,same,keys⟩ := entry.keys_toDatum
    rw [same]
    exact Datum.field?_eq_none fun member => foreign (keys.subset member)
  obtain ⟨description,checkName,fingerprint,severity,path,firstLine,lastLine,method,location⟩ := entry
  cases method <;> cases location <;> exact ⟨rfl,rfl,rfl,rfl,rfl,rfl,rfl,others⟩

open Json

theorem storable_optionalField (key : String) (value : Option String) (depth : Nat) :
    ∀ field ∈ optionalField key value, Storable depth field.2 := by
  cases value with
  | none => simp [optionalField]
  | some text => simpa [optionalField] using Storable.text text

theorem storable_place {entry : ReportEntry} (fits : entry.Fits) (depth : Nat) :
    Storable (depth + 2) entry.place := by
  refine .table (by decide : ["path","lines"].Nodup) ?_
  rw [List.forall_mem_cons,List.forall_mem_singleton]
  refine ⟨.text _,.table (by decide : ["begin","end"].Nodup) ?_⟩
  rw [List.forall_mem_cons,List.forall_mem_singleton]
  exact ⟨.int fits.firstLine,.int fits.lastLine⟩

theorem storable_toDatum {entry : ReportEntry} (fits : entry.Fits) (depth : Nat) :
    Storable (depth + 3) entry.toDatum := by
  refine .table ?_ ?_
  · obtain ⟨_,same,keys⟩ := entry.keys_toDatum
    cases same
    exact List.Nodup.sublist keys (by decide)
  · simp only [List.forall_mem_append,List.forall_mem_cons]
    exact ⟨⟨⟨.text _,.text _,.text _,.text _,storable_place fits depth,by simp⟩,
      storable_optionalField _ _ _⟩,storable_optionalField _ _ _⟩

end ReportEntry

namespace MethodBlock
open Json

structure Fits (block : MethodBlock) : Prop where
  startLine : fitsInt block.startLine = true
  length : fitsInt block.length = true

/-- A document tells a block: it has its name, its first line and its length, and no other field. -/
structure Tells (document : Datum) (block : MethodBlock) : Prop where
  name : document.field? "name" = some (.text block.name)
  startLine : document.field? "start_line" = some (.int block.startLine)
  length : document.field? "length" = some (.int block.length)
  others : ∀ key, key ∉ ["name","start_line","length"] → document.field? key = none

theorem tells_toDatum (block : MethodBlock) : Tells block.toDatum block :=
  ⟨rfl,rfl,rfl,fun _ foreign => Datum.field?_eq_none foreign⟩

theorem storable_toDatum {block : MethodBlock} (fits : block.Fits) (depth : Nat) :
    Storable (depth + 1) block.toDatum := by
  refine .table (by decide : ["name","start_line","length"].Nodup) ?_
  simp only [List.forall_mem_cons]
  exact ⟨.text _,.int fits.startLine,.int fits.length,by simp⟩

end MethodBlock

namespace Repository
open Disk Json
variable {disk later : Disk} {path : Path}

theorem content_of_writeFile {content : ByteArray} (written : disk.writeFile path content = .ok later) :
    later.content path = .ok content := by
  obtain ⟨place,found,free,rfl⟩ := free_of_writeFile written
  exact content_of_target? (target?_put found free (by simp))

/-- Records are stored as they are: the file system alone can refuse to write them, and what has been
written to a path is a file that contains the list of them. -/
def Stored (records : List Datum) : Prop :=
  ∀ disk path later,
    (writeRecords disk path records = .ok later ↔
      disk.writeFile path (write (.list records)).toUTF8 = .ok later) ∧
    (writeRecords disk path records = .ok later → later.Contains path (.list records))

theorem stored_of_storable {records : List Datum} (storable : Storable depthLimit (.list records)) :
    Stored records := by
  intro disk path later
  have unwidened : writeRecords disk path records = .ok later ↔
      disk.writeFile path (write (.list records)).toUTF8 = .ok later := by
    rw [writeRecords_eq,if_pos storable.fits]
    cases disk.writeFile path (write (.list records)).toUTF8 <;> simp [Except.mapError]
  refine ⟨unwidened,fun written => ?_⟩
  exact ⟨_,content_of_writeFile (unwidened.mp written),readBytes?_write storable⟩

/-- Every list of entries of a report and every list of method blocks is stored as it is if its
numbers have 64 bits. The document of an entry tells what the entry has and no more, as does that of
a block, and an issue has the document of its entry. -/
theorem stored_records {entries : List ReportEntry} {blocks : List MethodBlock}
    (entriesFit : ∀ entry ∈ entries, entry.Fits) (blocksFit : ∀ block ∈ blocks, block.Fits) :
    Stored (entries.map ReportEntry.toDatum) ∧ Stored (blocks.map MethodBlock.toDatum) ∧
      (∀ entry ∈ entries, ReportEntry.Tells entry.toDatum entry) ∧
      (∀ block ∈ blocks, MethodBlock.Tells block.toDatum block) ∧
      ∀ issue, issue.toDatum = (ReportEntry.ofIssue issue).toDatum := by
  refine ⟨stored_of_storable (.list ?_),stored_of_storable (.list ?_),
    fun entry _ => entry.tells_toDatum,fun block _ => block.tells_toDatum,
    fun issue => (ReportEntry.toDatum_ofIssue issue).symm⟩
  · rw [List.forall_mem_map]
    exact fun entry member => entry.storable_toDatum (entriesFit entry member) _
  · rw [List.forall_mem_map]
    exact fun block member => block.storable_toDatum (blocksFit block member) _

section Example

def recordsFile : Path := ⟨.root,["records.json"]⟩

def escapedEntry : ReportEntry where
  description := "\"\\\x00\n\u2028é"
  checkName := ""
  fingerprint := "C-ZCL_A-1"
  severity := .minor
  path := "src/zcl_a.clas.abap"
  firstLine := -9223372036854775808
  lastLine := 18446744073709551615
  method := some "\t"
  location := none

def shortBlock : MethodBlock := ⟨"if_run~run",3,2⟩

theorem writeFile_bare (content : ByteArray) :
    ∃ later, bare.writeFile recordsFile content = .ok later := by
  have vacant : bare.locate true recordsFile = .ok (.vacant [] "records.json") := by
    rw [locate,if_neg (by decide)]
    exact walk_vacant (by decide) rfl
  exact ⟨_,writeFile_of_free vacant trivial content⟩

theorem escaped_entry_stored : ∃ later,
    writeRecords bare recordsFile [escapedEntry.toDatum] = .ok later ∧
      later.Contains recordsFile (.list [escapedEntry.toDatum]) ∧
      ReportEntry.Tells escapedEntry.toDatum escapedEntry ∧ Stored [shortBlock.toDatum] ∧
      shortBlock.toDatum.field? "name" = some (.text "if_run~run") ∧
      shortBlock.toDatum.field? "start_line" = some (.int 3) ∧
      shortBlock.toDatum.field? "length" = some (.int 2) := by
  have entryFits : ∀ entry ∈ [escapedEntry], entry.Fits := by
    rw [List.forall_mem_singleton]
    exact ⟨by decide,by decide⟩
  have blockFits : ∀ block ∈ [shortBlock], block.Fits := by
    rw [List.forall_mem_singleton]
    exact ⟨by decide,by decide⟩
  obtain ⟨stored,blocks,tells,told,-⟩ := stored_records entryFits blockFits
  obtain ⟨later,written⟩ := writeFile_bare (write (.list [escapedEntry.toDatum])).toUTF8
  have kept := (stored bare recordsFile later).1.mpr written
  have block := told shortBlock List.mem_cons_self
  exact ⟨later,kept,(stored bare recordsFile later).2 kept,tells escapedEntry List.mem_cons_self,
    blocks,block.name,block.startLine,block.length⟩

end Example

end Repository
end AbapAtlas
