/-! The version of the program, as it tells it on its command line, in its log and in its metrics. -/

namespace FrameSentry

def version : String := "0.1.0"

end FrameSentry
