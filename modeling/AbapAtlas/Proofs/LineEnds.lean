import AbapAtlas.Proofs.Json.Reader
import AbapAtlas.Proofs.Session
import AbapAtlas.Proofs.SourceIndex
import AbapAtlas.Proofs.TreeChange

/-! Line ends in stored files. Whatever reads a file line by line sees the file tree as if every
line ended in a line feed, so it does not matter how the lines of a stored source end. -/
namespace AbapAtlas
open Text

namespace Text

inductive Returned : List Char → List Char → Prop where
  | nil : Returned [] []
  | same (c : Char) {text stored : List Char} :
      Returned text stored → Returned (c :: text) (c :: stored)
  | both {text stored : List Char} :
      Returned text stored → Returned ('\n' :: text) ('\r' :: '\n' :: stored)

def onlyReturns (text : List Char) : List Char := text.map fun c => if c = '\n' then '\r' else c

/-- The ways in which the lines of a text may end where it is stored. -/
def StoredAs (text stored : List Char) : Prop := Returned text stored ∨ stored = onlyReturns text

theorem unifyLineEnds_cons {c : Char} (plain : c ≠ '\r') (rest : List Char) :
    unifyLineEnds (c :: rest) = c :: unifyLineEnds rest := by
  rw [unifyLineEnds,if_neg plain]
  rintro _ rfl
  exact absurd rfl plain

theorem unifyLineEnds_of_free {text : List Char} (free : '\r' ∉ text) :
    unifyLineEnds text = text := by
  induction text with
  | nil => rfl
  | cons c rest ih =>
    rw [List.mem_cons,not_or] at free
    rw [unifyLineEnds_cons (Ne.symm free.1),ih free.2]

theorem return_notMem_unifyLineEnds (text : List Char) : '\r' ∉ unifyLineEnds text := by
  fun_induction unifyLineEnds text with
  | case1 => exact List.not_mem_nil
  | case2 rest ih => simpa using ih
  | case3 c rest _ ih =>
    rw [List.mem_cons,not_or]
    refine ⟨?_,ih⟩
    split
    · decide
    · next plain => exact Ne.symm plain

theorem unifyLineEnds_of_returned {text stored : List Char} (returned : Returned text stored)
    (free : '\r' ∉ text) : unifyLineEnds stored = text := by
  induction returned with
  | nil => rfl
  | same c _ ih =>
    rw [List.mem_cons,not_or] at free
    rw [unifyLineEnds_cons (Ne.symm free.1),ih free.2]
  | both _ ih =>
    rw [List.mem_cons,not_or] at free
    rw [unifyLineEnds,ih free.2]

theorem feed_notMem_onlyReturns (text : List Char) : '\n' ∉ onlyReturns text := by
  rw [onlyReturns,List.mem_map]
  rintro ⟨c,_,same⟩
  split at same
  · cases same
  · next other => exact other same

theorem unifyLineEnds_onlyReturns {text : List Char} (free : '\r' ∉ text) :
    unifyLineEnds (onlyReturns text) = text := by
  induction text with
  | nil => rfl
  | cons c rest ih =>
    rw [List.mem_cons,not_or] at free
    have cons : onlyReturns (c :: rest) = (if c = '\n' then '\r' else c) :: onlyReturns rest := rfl
    rw [cons]
    by_cases feed : c = '\n'
    · rw [if_pos feed,unifyLineEnds,ih free.2,feed]
      · rfl
      -- No line feed is left that could follow the carriage return.
      · intro more _ kept
        refine feed_notMem_onlyReturns rest ?_
        rw [kept]
        exact List.mem_cons_self
    · rw [if_neg feed,unifyLineEnds_cons (Ne.symm free.1),ih free.2]

theorem unifyLineEnds_of_storedAs {text stored : List Char} (storedAs : StoredAs text stored)
    (free : '\r' ∉ text) : unifyLineEnds stored = text := by
  rcases storedAs with returned | rfl
  · exact unifyLineEnds_of_returned returned free
  · exact unifyLineEnds_onlyReturns free

def unifyBytes (content : ByteArray) : ByteArray :=
  match String.fromUTF8? content with
  | some text => (String.ofList (unifyLineEnds text.toList)).toUTF8
  | none => content

theorem unifyBytes_of_decoded {content : ByteArray} {text : String}
    (decoded : String.fromUTF8? content = some text) :
    unifyBytes content = (String.ofList (unifyLineEnds text.toList)).toUTF8 := by
  rw [unifyBytes,decoded]

theorem lines_unified (text : String) :
    lines (String.ofList (unifyLineEnds text.toList)) = lines text := by
  rw [lines,String.toList_ofList,
    unifyLineEnds_of_free (return_notMem_unifyLineEnds text.toList),lines]

/-- A file has the same lines, or is no text, however its lines end. -/
theorem lines_unifyBytes (content : ByteArray) :
    (String.fromUTF8? (unifyBytes content)).map lines = (String.fromUTF8? content).map lines := by
  cases decoded : String.fromUTF8? content with
  | none => rw [unifyBytes,decoded,decoded]
  | some text =>
    rw [unifyBytes_of_decoded decoded,Json.fromUTF8?_toUTF8,Option.map_some,Option.map_some,
      lines_unified]

end Text

def Entry.mapFile (f : ByteArray → ByteArray) : Entry → Entry
  | .file content => .file (f content)
  | .link target => .link target
  | .folder => .folder

def Place.mapFile (f : ByteArray → ByteArray) : Place → Place
  | .at address entry => .at address (entry.mapFile f)
  | .vacant folder name => .vacant folder name

namespace Disk

def mapFiles (f : ByteArray → ByteArray) (disk : Disk) : Disk where
  entries := disk.entries.map fun item => (item.1,item.2.mapFile f)
  here := disk.here
  distinct := by
    rw [List.map_map]
    exact disk.distinct

section
variable (f : ByteArray → ByteArray) (disk : Disk)

theorem entries_mapFiles :
    (disk.mapFiles f).entries = disk.entries.map fun item => (item.1,item.2.mapFile f) := rfl

theorem get?_mapFiles (address : Address) :
    Disk.get? (disk.mapFiles f) address = (disk.get? address).map (Entry.mapFile f) := by
  have found : ∀ entries : List (Address × Entry),
      (entries.map fun item => (item.1,item.2.mapFile f)).lookup address =
        (entries.lookup address).map (Entry.mapFile f) := by
    intro entries
    induction entries with
    | nil => rfl
    | cons item rest ih =>
      rw [List.map_cons,List.lookup_cons,List.lookup_cons,ih]
      cases address == item.1 <;> rfl
  rw [get?,get?]
  split
  · rfl
  · exact found disk.entries

/-- Paths lead to the same places whatever is in the files. -/
theorem walk_mapFiles (last : Bool) (links : Nat) (folder : Address) (names : List String) :
    (disk.mapFiles f).walk last links folder names =
      (disk.walk last links folder names).map (Place.mapFile f) := by
  fun_induction disk.walk last links folder names with
  | case1 => rw [walk]; rfl
  | case2 _ _ _ ih => rw [walk_parent,ih]
  | case3 links folder name downward absent =>
    rw [walk_vacant downward (by rw [get?_mapFiles,absent]; rfl)]
    rfl
  | case4 links folder name rest downward absent more =>
    rw [walk,if_neg downward,get?_mapFiles,absent]
    simp only [Option.map_none,if_neg more]
    rfl
  | case5 links folder name rest downward inside ih =>
    rw [walk_folder downward (by rw [get?_mapFiles,inside]; rfl),ih]
  | case6 links folder name downward content inside =>
    rw [walk_file downward (by rw [get?_mapFiles,inside]; rfl)]
    rfl
  | case7 links folder name rest downward content inside more =>
    rw [walk,if_neg downward,get?_mapFiles,inside]
    simp only [Option.map_some,Entry.mapFile,if_neg more]
    rfl
  | case8 links folder name rest downward target inside stop =>
    rw [walk,if_neg downward,get?_mapFiles,inside]
    simp only [Option.map_some,Entry.mapFile,if_pos stop]
    rfl
  | case9 folder name rest downward target inside followed =>
    rw [walk,if_neg downward,get?_mapFiles,inside]
    simp only [Option.map_some,Entry.mapFile,if_neg followed]
    rfl
  | case10 folder name rest downward target inside followed links path ih =>
    rw [walk,if_neg downward,get?_mapFiles,inside]
    simp only [Option.map_some,Entry.mapFile,if_neg followed]
    exact ih

theorem locate_mapFiles (last : Bool) (path : Path) :
    (disk.mapFiles f).locate last path = (disk.locate last path).map (Place.mapFile f) := by
  rw [locate,locate]
  split
  · rfl
  · exact walk_mapFiles f disk last linkLimit (disk.start path) path.names

theorem content_mapFiles (path : Path) :
    (disk.mapFiles f).content path = (disk.content path).map f := by
  rw [Disk.content,Disk.content,locate_mapFiles]
  rcases disk.locate true path with trouble | ⟨address,content | target | _⟩ | ⟨folder,name⟩ <;> rfl

theorem target?_mapFiles (path : Path) : (disk.mapFiles f).target? path =
    (disk.target? path).map fun found => (found.1,found.2.mapFile f) := by
  rw [target?,target?,locate_mapFiles]
  rcases disk.locate true path with trouble | ⟨address,entry⟩ | ⟨folder,name⟩ <;> rfl

theorem isFolder_mapFiles (path : Path) :
    (disk.mapFiles f).isFolder path = disk.isFolder path := by
  rw [isFolder,isFolder,target?_mapFiles]
  rcases disk.target? path with _ | ⟨address,content | target | _⟩ <;> rfl

theorem throughFolders_mapFiles (folder : Address) (names : List String) :
    (disk.mapFiles f).throughFolders folder names = disk.throughFolders folder names := by
  have same : ∀ address, (Disk.get? (disk.mapFiles f) address).any Entry.isFolder =
      (disk.get? address).any Entry.isFolder := by
    intro address
    rw [get?_mapFiles]
    rcases disk.get? address with _ | content | target | _ <;> rfl
  simp only [throughFolders,same]

theorem filesBelow_mapFiles (folder : Address) :
    (disk.mapFiles f).filesBelow folder = disk.filesBelow folder := by
  have file : ∀ entry : Entry, (entry.mapFile f).isFile = entry.isFile := by
    intro entry
    cases entry <;> rfl
  have below : (disk.mapFiles f).below folder =
      (disk.below folder).map fun item => (item.1,item.2.mapFile f) := by
    simp only [Disk.below,throughFolders_mapFiles,entries_mapFiles,List.filterMap_map,
      List.map_filterMap]
    refine List.filterMap_congr fun item _ => ?_
    simp only [Function.comp_apply]
    split <;> rfl
  rw [filesBelow,filesBelow,below,List.filter_map,List.map_map]
  simp only [Function.comp_def,file]

end

theorem mapFiles_put (f : ByteArray → ByteArray) (disk : Disk) (address : Address)
    (content : ByteArray) : (disk.put address (.file content)).mapFiles f =
      (disk.mapFiles f).put address (.file (f content)) := by
  have mapped : ∀ entries : List (Address × Entry),
      (putEntry address (.file content) entries).map (fun item => (item.1,item.2.mapFile f)) =
        putEntry address (.file (f content))
          (entries.map fun item => (item.1,item.2.mapFile f)) := by
    intro entries
    induction entries with
    | nil => rfl
    | cons item rest ih =>
      simp only [putEntry,List.map_cons]
      split
      · rfl
      · rw [List.map_cons,ih]
  simp only [put,mapFiles,mapped]

def unified (disk : Disk) : Disk := disk.mapFiles unifyBytes

end Disk

namespace Session
variable {a b : Disk}

theorem readLines_unified (disk : Disk) (path : Path) :
    readLines disk.unified path = readLines disk path := by
  rw [readLines_eq,readLines_eq,Disk.unified,Disk.content_mapFiles]
  rcases disk.content path with trouble | content
  · cases trouble <;> rfl
  · exact congrArg Except.ok (lines_unifyBytes content)

theorem linesOf_congr (same : ∀ path, readLines a path = readLines b path) (session : Session)
    (path : String) : session.linesOf a path = session.linesOf b path := by
  rw [linesOf,linesOf,funext same]

theorem blocksOf_congr (same : ∀ path, readLines a path = readLines b path) (session : Session)
    (path : String) : session.blocksOf a path = session.blocksOf b path := by
  rw [blocksOf,blocksOf,funext same]

theorem resolve_congr_disk (same : ∀ path, readLines a path = readLines b path) (query : Query)
    (index : SourceIndex) (session : Session) :
    query.resolve index a session = query.resolve index b session := by
  rw [Query.resolve,Query.resolve,funext same]

end Session

namespace SourceFiles
variable (disk : Disk)

theorem rulesOf_unified (folder : Path) :
    Ignore.rulesOf disk.unified folder = Ignore.rulesOf disk folder := by
  rw [Ignore.rulesOf,Ignore.rulesOf,Disk.unified,Disk.content_mapFiles]
  cases disk.content (folder.below [Ignore.fileName]) with
  | error trouble => rfl
  | ok content =>
    cases decoded : String.fromUTF8? content with
    | none => simp only [Except.map,unifyBytes,decoded]
    | some text =>
      simp only [Except.map,unifyBytes_of_decoded decoded,Json.fromUTF8?_toUTF8,decoded,
        Ignore.rulesOfText,lines_unified]

theorem candidates_unified (folder : Path) (extensions : List String) :
    candidates disk.unified folder extensions = candidates disk folder extensions := by
  rw [candidates,candidates,Disk.unified,Disk.target?_mapFiles]
  simp only [Disk.filesBelow_mapFiles]
  rcases disk.target? folder with _ | ⟨address,content | target | _⟩ <;> rfl

theorem findUnder_unified (rulesFolder : Option Path) (folder : Path) (extensions : List String) :
    findUnder disk.unified rulesFolder folder extensions =
      findUnder disk rulesFolder folder extensions := by
  have absolute : ∀ path, disk.unified.absolute path = disk.absolute path := fun _ => rfl
  cases rulesFolder with
  | none => simp only [findUnder,find,candidates_unified]
  | some root =>
    simp only [findUnder,find,candidates_unified,rulesOf_unified,absolute]

end SourceFiles

theorem SourceIndex.build_unified (disk : Disk) (root : Path) (srcDir : String)
    (extensions : List String) (respectIgnore : Bool) :
    build disk.unified root srcDir extensions respectIgnore =
      build disk root srcDir extensions respectIgnore := by
  have folder : disk.unified.isFolder = disk.isFolder :=
    funext fun path => Disk.isFolder_mapFiles unifyBytes disk path
  simp only [build_eq,folder,SourceFiles.findUnder_unified]

namespace Session

/-- The same file tree is seen line by line, in whichever way the lines of a stored text end. -/
theorem unified_put_of_storedAs {text stored : String} (free : '\r' ∉ text.toList)
    (storedAs : StoredAs text.toList stored.toList) (disk : Disk) (address : Address) :
    (disk.put address (.file stored.toUTF8)).unified =
      (disk.put address (.file text.toUTF8)).unified := by
  have content : unifyBytes stored.toUTF8 = unifyBytes text.toUTF8 := by
    rw [unifyBytes_of_decoded (Json.fromUTF8?_toUTF8 stored),
      unifyBytes_of_decoded (Json.fromUTF8?_toUTF8 text),
      unifyLineEnds_of_storedAs storedAs free,unifyLineEnds_of_free free]
  rw [Disk.unified,Disk.unified,Disk.mapFiles_put,Disk.mapFiles_put,content]

/-- Two file trees in which a source is stored with its lines ended in different ways are the same
to all who read sources: sessions get the same lines and the same method blocks, the same files are
indexed, and every query is resolved alike. The lines are those of the source. -/
theorem line_ends_unseen {text stored : String} (free : '\r' ∉ text.toList)
    (storedAs : StoredAs text.toList stored.toList) (disk : Disk) (address : Address) :
    let plain := disk.put address (.file text.toUTF8)
    let other := disk.put address (.file stored.toUTF8)
    (∀ (session : Session) path, session.linesOf other path = session.linesOf plain path ∧
      session.blocksOf other path = session.blocksOf plain path) ∧
    (∀ root srcDir extensions respectIgnore,
      SourceIndex.build other root srcDir extensions respectIgnore =
        SourceIndex.build plain root srcDir extensions respectIgnore) ∧
    (∀ (query : Query) index (session : Session),
      query.resolve index other session = query.resolve index plain session) ∧
    ∀ path, other.target? path = some (address,.file stored.toUTF8) →
      readLines other path = .ok (some ((cutAt '\n' text.toList).map String.ofList)) := by
  intro plain other
  have unified : other.unified = plain.unified := unified_put_of_storedAs free storedAs disk address
  have same : ∀ path, readLines other path = readLines plain path := by
    intro path
    rw [← readLines_unified other,unified,readLines_unified plain]
  refine ⟨fun session path => ⟨linesOf_congr same session path,blocksOf_congr same session path⟩,
    ?_,resolve_congr_disk same,?_⟩
  · intro root srcDir extensions respectIgnore
    rw [← SourceIndex.build_unified other,unified,SourceIndex.build_unified plain]
  · intro path reached
    have content := Disk.content_of_target? reached
    simp only [readLines_eq,content,Json.fromUTF8?_toUTF8,Option.map_some,lines,
      unifyLineEnds_of_storedAs storedAs free]

section Example

def feedSource : String := "METHOD a.\n  x = 1.\nENDMETHOD.\n"

def mixedSource : String := "METHOD a.\r\n  x = 1.\nENDMETHOD.\r\n"

def returnSource : String := "METHOD a.\r  x = 1.\rENDMETHOD.\r"

def storedTree (source : String) : Disk :=
  Disk.put ⟨[],[],List.nodup_nil⟩ ["zcl_a.clas.abap"] (.file source.toUTF8)

theorem target?_storedTree (source : String) : (storedTree source).target?
    ⟨.root,["zcl_a.clas.abap"]⟩ = some (["zcl_a.clas.abap"],.file source.toUTF8) :=
  Disk.target?_eq_some_iff.mpr ⟨by decide,Disk.walk_file (by decide) rfl⟩

theorem storedAs_mixed : StoredAs feedSource.toList mixedSource.toList := by
  have same : ∀ {text stored : List Char} (line : List Char), Returned text stored →
      Returned (line ++ text) (line ++ stored) := by
    intro text stored line returned
    induction line with
    | nil => exact returned
    | cons c line ih => exact .same c ih
  exact .inl (same "METHOD a.".toList (.both (same "  x = 1.\nENDMETHOD.".toList (.both .nil))))

theorem mixed_line_ends_unseen :
    readLines (storedTree mixedSource) ⟨.root,["zcl_a.clas.abap"]⟩ =
      .ok (some ["METHOD a.","  x = 1.","ENDMETHOD.",""]) ∧
    readLines (storedTree returnSource) ⟨.root,["zcl_a.clas.abap"]⟩ =
      .ok (some ["METHOD a.","  x = 1.","ENDMETHOD.",""]) := by
  have free : '\r' ∉ feedSource.toList := by decide
  have parts : (cutAt '\n' feedSource.toList).map String.ofList =
      ["METHOD a.","  x = 1.","ENDMETHOD.",""] := by decide +kernel
  obtain ⟨_,_,_,mixed⟩ := line_ends_unseen free storedAs_mixed ⟨[],[],List.nodup_nil⟩
    ["zcl_a.clas.abap"]
  have returns : StoredAs feedSource.toList returnSource.toList := .inr (by decide)
  obtain ⟨_,_,_,returned⟩ := line_ends_unseen free returns ⟨[],[],List.nodup_nil⟩
    ["zcl_a.clas.abap"]
  rw [← parts]
  exact ⟨mixed _ (target?_storedTree mixedSource),returned _ (target?_storedTree returnSource)⟩

end Example

end Session
end AbapAtlas
