import Covenant.CodeSet

namespace Covenant.Unicode

/-- Characters that are compatible with one of the separators of a URL. -/
def hiddenSeparatorSet : CodeSet := .read
  "2047-2049 2100-2101 2105-2106 2a74 fe13 fe16 fe55-fe56 fe5f fe6b ff03 ff0f ff1a ff1f-ff20"

end Covenant.Unicode
