/-!
# Faults of YAML texts

What can be wrong with a text that is no YAML, and how it is reported: with the number of characters in
front of the fault, its line, and its column in that line.
-/

namespace SqlEngine

/-- A place in a text. -/
structure Yaml.Mark where
  /-- The number of characters in front of it. -/
  index : Nat := 0
  /-- The line, counted from one. -/
  line : Nat := 1
  /-- The number of characters in front of it on its line. -/
  column : Nat := 0
  deriving DecidableEq

/-- What is wrong with a text that is no YAML. -/
inductive Yaml.Cause where
  /-- Flow collections are nested too deeply. -/
  | tooDeep
  /-- Something follows the mark that ends a document. -/
  | behindDocumentEnd
  /-- A line stands further left than its block. -/
  | indentation
  /-- An anchor stands further left than what it belongs to. -/
  | anchorIndentation
  /-- No token starts with the character that is there. -/
  | unexpected (c : Char)
  /-- No colon follows what has to be a key, on its line. -/
  | keyWithoutColon
  /-- No colon follows what has to be a key. -/
  | keyExpected
  /-- A tab indents a block. -/
  | blockTab
  /-- A tab follows the sign of a key. -/
  | keyTab
  /-- A tab indents the line of a quoted scalar. -/
  | quotedTab
  /-- A tab indents the line of a plain scalar. -/
  | plainTab
  /-- A block scalar starts with a tab. -/
  | blockScalarTab
  /-- Only a tab separates a colon from what follows. -/
  | colonTab
  /-- Only a tab separates two dashes. -/
  | dashTab
  /-- Nothing separates the sign of a key from what follows. -/
  | noBlank
  /-- Nothing separates a comment from what it follows. -/
  | commentApart
  /-- Something follows a directive on its line. -/
  | behindDirective
  /-- A directive has no name. -/
  | directiveName
  /-- The name of a directive has a character that no name has. -/
  | directiveLetter
  /-- A version has no dot. -/
  | versionDot
  /-- A version has too many digits. -/
  | versionLong
  /-- A version has no digits. -/
  | versionMissing
  /-- Something follows the prefix of a tag directive. -/
  | behindTagDirective
  /-- The prefix of a tag directive starts with a character that no tag has. -/
  | tagPrefix
  /-- A tag does not start with its sign. -/
  | tagSign
  /-- The handle of a tag directive does not end with its sign. -/
  | handleSign
  /-- A tag has no characters. -/
  | tagMissing
  /-- A tag in angle brackets has no end. -/
  | verbatimEnd
  /-- No two hexadecimal digits follow the sign of a byte in a tag. -/
  | tagByte
  /-- The first byte of a character in a tag is the first one of no character. -/
  | tagFirstByte
  /-- Another byte of a character in a tag is the first one of a character. -/
  | tagNextByte
  /-- There is no character with the number of bytes in a tag. -/
  | tagNumber
  /-- Something follows a tag. -/
  | behindTag
  /-- The handle of a tag was not declared. -/
  | unknownHandle
  /-- The version was declared twice. -/
  | versionTwice
  /-- A directive follows a document that was not ended. -/
  | directiveInside
  /-- An anchor has no name. -/
  | anchorName
  /-- An alias has the name of no anchor. -/
  | unknownAnchor
  /-- A dash stands in a flow collection. -/
  | dashInFlow
  /-- No entry of a sequence can start here. -/
  | dashNotAllowed
  /-- No key can start here. -/
  | keyNotAllowed
  /-- No value can start here. -/
  | valueNotAllowed
  /-- A key and its colon stand on different lines. -/
  | colonPlace
  /-- The indentation of a block scalar is given as zero. -/
  | zeroIndentation
  /-- Something follows the header of a block scalar. -/
  | behindHeader
  /-- A line of a block scalar is indented too little. -/
  | blockScalarLine
  /-- The mark of a document stands in a quoted scalar. -/
  | markInQuoted
  /-- The text ends in a quoted scalar. -/
  | unfinishedQuoted
  /-- A line of a quoted scalar is indented too little. -/
  | quotedIndentation
  /-- Something follows a quoted scalar. -/
  | behindQuoted
  /-- A backslash has no meaning in front of what follows it. -/
  | escape
  /-- The number of an escape has other characters than hexadecimal digits. -/
  | escapeDigits
  /-- There is no character with the number of an escape. -/
  | escapeNumber
  /-- A line of a flow collection is indented too little. -/
  | flowIndentation
  /-- A dash and a sign of a flow collection follow each other. -/
  | dashAndSign
  /-- No document starts where one has to. -/
  | noDocument
  /-- No node starts where one has to. -/
  | noNode
  /-- Something else than a key stands in a block mapping. -/
  | noBlockKey
  /-- Something else than a dash stands in a block sequence. -/
  | noDash
  /-- Something else than a comma or the end follows an entry of a flow mapping. -/
  | noMappingEnd
  /-- Something else than a comma or the end follows an entry of a flow sequence. -/
  | noSequenceEnd
  /-- A mapping has a key twice. -/
  | duplicate (key : String)

/-- The wording of what is wrong. -/
def Yaml.Cause.message : Yaml.Cause → String
  | tooDeep => "recursion limit exceeded"
  | behindDocumentEnd => "invalid content after document end marker"
  | indentation => "invalid indentation"
  | anchorIndentation => "invalid indentation for anchor"
  | unexpected c => "unexpected character: \x60" ++ String.ofList [c, '\x27']
  | keyWithoutColon => "simple key expect ':'"
  | keyExpected => "simple key expected"
  | blockTab => "tabs disallowed within this context (block indentation)"
  | keyTab => "tabs disallowed in this context"
  | quotedTab => "tab cannot be used as indentation"
  | plainTab => "while scanning a plain scalar, found a tab"
  | blockScalarTab => "a block scalar content cannot start with a tab"
  | colonTab => "':' must be followed by a valid YAML whitespace"
  | dashTab => "'-' must be followed by a valid YAML whitespace"
  | noBlank => "expected whitespace"
  | commentApart => "comments must be separated from other tokens by whitespace"
  | behindDirective =>
    "while scanning a directive, did not find expected comment or line break"
  | directiveName => "while scanning a directive, could not find expected directive name"
  | directiveLetter =>
    "while scanning a directive, found unexpected non-alphabetical character"
  | versionDot =>
    "while scanning a YAML directive, did not find expected digit or '.' character"
  | versionLong => "while scanning a YAML directive, found extremely long version number"
  | versionMissing =>
    "while scanning a YAML directive, did not find expected version number"
  | behindTagDirective =>
    "while scanning TAG, did not find expected whitespace or line break"
  | tagPrefix => "invalid global tag character"
  | tagSign => "while scanning a tag, did not find expected '!'"
  | handleSign => "while parsing a tag directive, did not find expected '!'"
  | tagMissing => "while parsing a tag, did not find expected tag URI"
  | verbatimEnd => "while scanning a verbatim tag, did not find the expected '>'"
  | tagByte => "while parsing a tag, did not find URI escaped octet"
  | tagFirstByte => "while parsing a tag, found an incorrect leading UTF-8 octet"
  | tagNextByte => "while parsing a tag, found an incorrect trailing UTF-8 octet"
  | tagNumber => "while parsing a tag, found an invalid UTF-8 codepoint"
  | behindTag => "while scanning a tag, did not find expected whitespace or line break"
  | unknownHandle => "the handle wasn't declared"
  | versionTwice => "duplicate version directive"
  | directiveInside => "missing explicit document end marker before directive"
  | anchorName =>
    "while scanning an anchor or alias, did not find expected alphabetic or numeric character"
  | unknownAnchor => "while parsing node, found unknown anchor"
  | dashInFlow => "\x22-\x22 is only valid inside a block"
  | dashNotAllowed => "block sequence entries are not allowed in this context"
  | keyNotAllowed => "mapping keys are not allowed in this context"
  | valueNotAllowed => "mapping values are not allowed in this context"
  | colonPlace => "illegal placement of ':' indicator"
  | zeroIndentation =>
    "while scanning a block scalar, found an indentation indicator equal to 0"
  | behindHeader =>
    "while scanning a block scalar, did not find expected comment or line break"
  | blockScalarLine => "wrongly indented line in block scalar"
  | markInQuoted => "while scanning a quoted scalar, found unexpected document indicator"
  | unfinishedQuoted => "while scanning a quoted scalar, found unexpected end of stream"
  | quotedIndentation => "invalid indentation in quoted scalar"
  | behindQuoted => "invalid trailing content after double-quoted scalar"
  | escape => "while parsing a quoted scalar, found unknown escape character"
  | escapeDigits =>
    "while parsing a quoted scalar, did not find expected hexadecimal number"
  | escapeNumber =>
    "while parsing a quoted scalar, found invalid Unicode character escape code"
  | flowIndentation => "invalid indentation in flow construct"
  | dashAndSign => "plain scalar cannot start with '-' followed by ,[]\x7b\x7d"
  | noDocument => "did not find expected <document start>"
  | noNode => "while parsing a node, did not find expected node content"
  | noBlockKey => "while parsing a block mapping, did not find expected key"
  | noDash => "while parsing a block collection, did not find expected '-' indicator"
  | noMappingEnd => "while parsing a flow mapping, did not find expected ',' or '\x7d'"
  | noSequenceEnd => "while parsing a flow sequence, expected ',' or ']'"
  | duplicate key => key ++ ": duplicated key in mapping"

/-- A fault of a YAML text. -/
structure Yaml.Fault where
  /-- What is wrong. -/
  cause : Yaml.Cause
  /-- Where it shows. -/
  mark : Yaml.Mark

/-- The report on a fault. -/
def Yaml.Fault.report (fault : Yaml.Fault) : String :=
  s!"{fault.cause.message} at byte {fault.mark.index} line {fault.mark.line} "
    ++ s!"column {fault.mark.column + 1}"

end SqlEngine
