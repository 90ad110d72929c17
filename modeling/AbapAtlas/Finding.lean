import AbapAtlas.Document.Checked

/-! Findings of a check run, as exported: the record of one finding and that of a run. Exports name
fields in camel case; the names of the fields themselves are accepted too. -/
namespace AbapAtlas

structure Finding where
  checkId : String
  checkTitle : String
  messageId : Option String
  priority : Int
  messageText : String
  objectUri : Option String
  objectType : String
  objectName : String
  location : Option String
  findingUri : Option String
  deriving DecidableEq, Repr

structure CheckRun where
  checkVariant : String
  totalFindings : Int
  errorCount : Int
  warningCount : Int
  infoCount : Int
  findings : List Finding
  deriving DecidableEq, Repr

namespace Finding

def recordName : String := "Finding"

def check : Datum → Checked Finding
  | .table fields =>
    let fields : Fields := fields
    (Checked.passed Finding.mk)
      |>.also (fields.required ["checkId", "check_id"] Datum.checkText)
      |>.also (fields.optional ["checkTitle", "check_title"] "" Datum.checkText)
      |>.also (fields.optional ["messageId", "message_id"] none Datum.checkOptionalText)
      |>.also (fields.required ["priority"] Datum.checkInt)
      |>.also (fields.optional ["messageText", "message_text"] "" Datum.checkText)
      |>.also (fields.optional ["objectUri", "object_uri"] none Datum.checkOptionalText)
      |>.also (fields.required ["objectType", "object_type"] Datum.checkText)
      |>.also (fields.required ["objectName", "object_name"] Datum.checkText)
      |>.also (fields.optional ["location"] none Datum.checkOptionalText)
      |>.also (fields.optional ["findingUri", "finding_uri"] none Datum.checkOptionalText)
  | _ => .fault (.notRecord recordName)

def optionalText : Option String → Datum
  | none => .null
  | some text => .text text

def toDatum (finding : Finding) : Datum :=
  .table [
    ("check_id", .text finding.checkId),
    ("check_title", .text finding.checkTitle),
    ("message_id", optionalText finding.messageId),
    ("priority", .int finding.priority),
    ("message_text", .text finding.messageText),
    ("object_uri", optionalText finding.objectUri),
    ("object_type", .text finding.objectType),
    ("object_name", .text finding.objectName),
    ("location", optionalText finding.location),
    ("finding_uri", optionalText finding.findingUri)]

end Finding

namespace CheckRun

def recordName : String := "AtcResult"

def check : Datum → Checked CheckRun
  | .table fields =>
    let fields : Fields := fields
    (Checked.passed CheckRun.mk)
      |>.also (fields.optional ["checkVariant", "check_variant"] "" Datum.checkText)
      |>.also (fields.optional ["totalFindings", "total_findings"] 0 Datum.checkInt)
      |>.also (fields.optional ["errorCount", "error_count"] 0 Datum.checkInt)
      |>.also (fields.optional ["warningCount", "warning_count"] 0 Datum.checkInt)
      |>.also (fields.optional ["infoCount", "info_count"] 0 Datum.checkInt)
      |>.also (fields.optional ["findings"] [] (Datum.checkList Finding.check))
  | _ => .fault (.notRecord recordName)

def toDatum (run : CheckRun) : Datum :=
  .table [
    ("check_variant", .text run.checkVariant),
    ("total_findings", .int run.totalFindings),
    ("error_count", .int run.errorCount),
    ("warning_count", .int run.warningCount),
    ("info_count", .int run.infoCount),
    ("findings", .list (run.findings.map Finding.toDatum))]

end CheckRun
end AbapAtlas
