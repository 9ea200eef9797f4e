namespace DocumentTypes

def version : String := "0.3.0"

end DocumentTypes
