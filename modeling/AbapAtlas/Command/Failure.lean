import AbapAtlas.Command.Run

/-! The wording of failures that break a command off. -/
namespace AbapAtlas

def Ignore.Fault.message : Ignore.Fault → String
  | .notUtf8 => "invalid UTF-8 in " ++ Ignore.fileName
  | .emptyPattern => "empty pattern in " ++ Ignore.fileName
  | .badSet => "unusable set of characters in " ++ Ignore.fileName
  | .outside path folder => path.outsideMessage folder

def SourceIndex.Fault.message : SourceIndex.Fault → String
  | .rules fault => fault.message
  | .outside path root => path.outsideMessage root

def Publication.Fault.message : Publication.Fault → String
  | .settings fault => fault.message
  | .findings fault => fault.message
  | .index fault => fault.message
  | .numeral error => error.message
  | .write fault => fault.message

def Command.Failure.message : Command.Failure → String
  | .path trouble => trouble.message
  | .unknownHome => "Could not determine home directory."
  | .unnamedObject => "The object has no name."
  | .settings fault => fault.message
  | .publication fault => fault.message
  | .index fault => fault.message
  | .write fault => fault.message
  | .numeral error => error.message

end AbapAtlas
