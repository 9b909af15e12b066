namespace MailboxSync.Text

/-- The characters with the Unicode property White_Space: the controls U+0009 to U+000D, U+0085,
and the separators of width and line. U+200B, U+FEFF and U+001C to U+001F do not have it. -/
def isSpace (c : Char) : Bool :=
  ('\t' ≤ c && c ≤ '\r') || c = ' ' || c = '\u0085' || c = '\u00a0' || c = '\u1680' ||
    ('\u2000' ≤ c && c ≤ '\u200a') || c = '\u2028' || c = '\u2029' || c = '\u202f' ||
    c = '\u205f' || c = '\u3000'

/-- Nothing is left of the text once white space is taken off its ends. -/
def isBlank (s : String) : Bool :=
  s.toList.all isSpace

end MailboxSync.Text
