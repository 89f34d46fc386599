import LitNote.Text.Name.Run

/-!
Names of the characters from the space to the Ethiopic and Cherokee letters.
-/

namespace LitNote.Text.Name

def alphabets : List Run :=
  [⟨0x20, ["aSPACEaEXCLAMATION MARKaQUOTATION MARKaNUMBER SIGNaDOLLAR SIGNaPERCENT SIGN",
    "aAMPERSANDaAPOSTROPHEaLEFT PARENTHESISaRIGHT PARENTHESISaASTERISKaPLUS SIGNaCOMMA",
    "aHYPHEN-MINUSaFULL STOPaSOLIDUSaDIGIT ZERObONEbTWObTHREEbFOURbFIVEbSIXbSEVENbEIGHTbNINE",
    "aCOLONaSEMICOLONaLESS-THAN SIGNaEQUALS SIGNaGREATER-THAN SIGNaQUESTION MARKaCOMMERCIAL AT",
    "aLATIN CAPITAL LETTER AdBdCdDdEdFdGdHdIdJdKdLdMdNdOdPdQdRdSdTdUdVdWdXdYdZaLEFT SQUARE ",
    "BRACKETaREVERSE SOLIDUSaRIGHT SQUARE BRACKETaCIRCUMFLEX ACCENTaLOW LINEaGRAVE ACCENT",
    "aLATIN SMALL LETTER AdBdCdDdEdFdGdHdIdJdKdLdMdNdOdPdQdRdSdTdUdVdWdXdYdZaLEFT CURLY BRACKET",
    "aVERTICAL LINEaRIGHT CURLY BRACKETaTILDE"]⟩,
   ⟨0xA0, ["aNO-BREAK SPACEaINVERTED EXCLAMATION MARKaCENT SIGNaPOUND SIGNaCURRENCY SIGNaYEN ",
    "SIGNaBROKEN BARaSECTION SIGNaDIAERESISaCOPYRIGHT SIGNaFEMININE ORDINAL INDICATOR",
    "aLEFT-POINTING DOUBLE ANGLE QUOTATION MARKaNOT SIGNaSOFT HYPHENaREGISTERED SIGNaMACRON",
    "aDEGREE SIGNaPLUS-MINUS SIGNaSUPERSCRIPT TWObTHREEaACUTE ACCENTaMICRO SIGNaPILCROW SIGN",
    "aMIDDLE DOTaCEDILLAaSUPERSCRIPT ONEaMASCULINE ORDINAL INDICATORaRIGHT-POINTING DOUBLE ",
    "ANGLE QUOTATION MARKaVULGAR FRACTION ONE QUARTERdHALFcTHREE QUARTERSaINVERTED QUESTION ",
    "MARKaLATIN CAPITAL LETTER A WITH GRAVEfACUTEfCIRCUMFLEXfTILDEfDIAERESISfRING ABOVEdAEdC ",
    "WITH CEDILLAdE WITH GRAVEfACUTEfCIRCUMFLEXfDIAERESISdI WITH GRAVEfACUTEfCIRCUMFLEX",
    "fDIAERESISdETHdN WITH TILDEdO WITH GRAVEfACUTEfCIRCUMFLEXfTILDEfDIAERESISaMULTIPLICATION ",
    "SIGNaLATIN CAPITAL LETTER O WITH STROKEdU WITH GRAVEfACUTEfCIRCUMFLEXfDIAERESISdY WITH ",
    "ACUTEdTHORNbSMALL LETTER SHARP SdA WITH GRAVEfACUTEfCIRCUMFLEXfTILDEfDIAERESISfRING ABOVE",
    "dAEdC WITH CEDILLAdE WITH GRAVEfACUTEfCIRCUMFLEXfDIAERESISdI WITH GRAVEfACUTEfCIRCUMFLEX",
    "fDIAERESISdETHdN WITH TILDEdO WITH GRAVEfACUTEfCIRCUMFLEXfTILDEfDIAERESISaDIVISION SIGN",
    "aLATIN SMALL LETTER O WITH STROKEdU WITH GRAVEfACUTEfCIRCUMFLEXfDIAERESISdY WITH ACUTE",
    "dTHORNdY WITH DIAERESISbCAPITAL LETTER A WITH MACRONbSMALL LETTER A WITH MACRONbCAPITAL ",
    "LETTER A WITH BREVEbSMALL LETTER A WITH BREVEbCAPITAL LETTER A WITH OGONEKbSMALL LETTER A ",
    "WITH OGONEKbCAPITAL LETTER C WITH ACUTEbSMALL LETTER C WITH ACUTEbCAPITAL LETTER C WITH ",
    "CIRCUMFLEXbSMALL LETTER C WITH CIRCUMFLEXbCAPITAL LETTER C WITH DOT ABOVEbSMALL LETTER C ",
    "WITH DOT ABOVEbCAPITAL LETTER C WITH CARONbSMALL LETTER C WITH CARONbCAPITAL LETTER D ",
    "WITH CARONbSMALL LETTER D WITH CARONbCAPITAL LETTER D WITH STROKEbSMALL LETTER D WITH ",
    "STROKEbCAPITAL LETTER E WITH MACRONbSMALL LETTER E WITH MACRONbCAPITAL LETTER E WITH BREVE",
    "bSMALL LETTER E WITH BREVEbCAPITAL LETTER E WITH DOT ABOVEbSMALL LETTER E WITH DOT ABOVE",
    "bCAPITAL LETTER E WITH OGONEKbSMALL LETTER E WITH OGONEKbCAPITAL LETTER E WITH CARON",
    "bSMALL LETTER E WITH CARONbCAPITAL LETTER G WITH CIRCUMFLEXbSMALL LETTER G WITH CIRCUMFLEX",
    "bCAPITAL LETTER G WITH BREVEbSMALL LETTER G WITH BREVEbCAPITAL LETTER G WITH DOT ABOVE",
    "bSMALL LETTER G WITH DOT ABOVEbCAPITAL LETTER G WITH CEDILLAbSMALL LETTER G WITH CEDILLA",
    "bCAPITAL LETTER H WITH CIRCUMFLEXbSMALL LETTER H WITH CIRCUMFLEXbCAPITAL LETTER H WITH ",
    "STROKEbSMALL LETTER H WITH STROKEbCAPITAL LETTER I WITH TILDEbSMALL LETTER I WITH TILDE",
    "bCAPITAL LETTER I WITH MACRONbSMALL LETTER I WITH MACRONbCAPITAL LETTER I WITH BREVE",
    "bSMALL LETTER I WITH BREVEbCAPITAL LETTER I WITH OGONEKbSMALL LETTER I WITH OGONEK",
    "bCAPITAL LETTER I WITH DOT ABOVEbSMALL LETTER DOTLESS IbCAPITAL LIGATURE IJbSMALL ",
    "LIGATURE IJbCAPITAL LETTER J WITH CIRCUMFLEXbSMALL LETTER J WITH CIRCUMFLEXbCAPITAL ",
    "LETTER K WITH CEDILLAbSMALL LETTER K WITH CEDILLAdKRAbCAPITAL LETTER L WITH ACUTEbSMALL ",
    "LETTER L WITH ACUTEbCAPITAL LETTER L WITH CEDILLAbSMALL LETTER L WITH CEDILLAbCAPITAL ",
    "LETTER L WITH CARONbSMALL LETTER L WITH CARONbCAPITAL LETTER L WITH MIDDLE DOTbSMALL ",
    "LETTER L WITH MIDDLE DOTbCAPITAL LETTER L WITH STROKEbSMALL LETTER L WITH STROKEbCAPITAL ",
    "LETTER N WITH ACUTEbSMALL LETTER N WITH ACUTEbCAPITAL LETTER N WITH CEDILLAbSMALL LETTER ",
    "N WITH CEDILLAbCAPITAL LETTER N WITH CARONbSMALL LETTER N WITH CARONePRECEDED BY ",
    "APOSTROPHEbCAPITAL LETTER ENGbSMALL LETTER ENGbCAPITAL LETTER O WITH MACRONbSMALL LETTER ",
    "O WITH MACRONbCAPITAL LETTER O WITH BREVEbSMALL LETTER O WITH BREVEbCAPITAL LETTER O WITH ",
    "DOUBLE ACUTEbSMALL LETTER O WITH DOUBLE ACUTEbCAPITAL LIGATURE OEbSMALL LIGATURE OE",
    "bCAPITAL LETTER R WITH ACUTEbSMALL LETTER R WITH ACUTEbCAPITAL LETTER R WITH CEDILLA",
    "bSMALL LETTER R WITH CEDILLAbCAPITAL LETTER R WITH CARONbSMALL LETTER R WITH CARON",
    "bCAPITAL LETTER S WITH ACUTEbSMALL LETTER S WITH ACUTEbCAPITAL LETTER S WITH CIRCUMFLEX",
    "bSMALL LETTER S WITH CIRCUMFLEXbCAPITAL LETTER S WITH CEDILLAbSMALL LETTER S WITH CEDILLA",
    "bCAPITAL LETTER S WITH CARONbSMALL LETTER S WITH CARONbCAPITAL LETTER T WITH CEDILLA",
    "bSMALL LETTER T WITH CEDILLAbCAPITAL LETTER T WITH CARONbSMALL LETTER T WITH CARON",
    "bCAPITAL LETTER T WITH STROKEbSMALL LETTER T WITH STROKEbCAPITAL LETTER U WITH TILDE",
    "bSMALL LETTER U WITH TILDEbCAPITAL LETTER U WITH MACRONbSMALL LETTER U WITH MACRON",
    "bCAPITAL LETTER U WITH BREVEbSMALL LETTER U WITH BREVEbCAPITAL LETTER U WITH RING ABOVE",
    "bSMALL LETTER U WITH RING ABOVEbCAPITAL LETTER U WITH DOUBLE ACUTEbSMALL LETTER U WITH ",
    "DOUBLE ACUTEbCAPITAL LETTER U WITH OGONEKbSMALL LETTER U WITH OGONEKbCAPITAL LETTER W ",
    "WITH CIRCUMFLEXbSMALL LETTER W WITH CIRCUMFLEXbCAPITAL LETTER Y WITH CIRCUMFLEXbSMALL ",
    "LETTER Y WITH CIRCUMFLEXbCAPITAL LETTER Y WITH DIAERESISdZ WITH ACUTEbSMALL LETTER Z WITH ",
    "ACUTEbCAPITAL LETTER Z WITH DOT ABOVEbSMALL LETTER Z WITH DOT ABOVEbCAPITAL LETTER Z WITH ",
    "CARONbSMALL LETTER Z WITH CARONdLONG SdB WITH STROKEbCAPITAL LETTER B WITH HOOKfTOPBAR",
    "bSMALL LETTER B WITH TOPBARbCAPITAL LETTER TONE SIXbSMALL LETTER TONE SIXbCAPITAL LETTER ",
    "OPEN OdC WITH HOOKbSMALL LETTER C WITH HOOKbCAPITAL LETTER AFRICAN DdD WITH HOOKfTOPBAR",
    "bSMALL LETTER D WITH TOPBARdTURNED DELTAbCAPITAL LETTER REVERSED EdSCHWAdOPEN EdF WITH ",
    "HOOKbSMALL LETTER F WITH HOOKbCAPITAL LETTER G WITH HOOKdGAMMAbSMALL LETTER HVbCAPITAL ",
    "LETTER IOTAdI WITH STROKEdK WITH HOOKbSMALL LETTER K WITH HOOKdL WITH BARdLAMBDA WITH ",
    "STROKEbCAPITAL LETTER TURNED MdN WITH LEFT HOOKbSMALL LETTER N WITH LONG RIGHT LEG",
    "bCAPITAL LETTER O WITH MIDDLE TILDEfHORNbSMALL LETTER O WITH HORNbCAPITAL LETTER OIbSMALL ",
    "LETTER OIbCAPITAL LETTER P WITH HOOKbSMALL LETTER P WITH HOOKbLETTER YRbCAPITAL LETTER ",
    "TONE TWObSMALL LETTER TONE TWObCAPITAL LETTER ESHbLETTER REVERSED ESH LOOPbSMALL LETTER T ",
    "WITH PALATAL HOOKbCAPITAL LETTER T WITH HOOKbSMALL LETTER T WITH HOOKbCAPITAL LETTER T ",
    "WITH RETROFLEX HOOKdU WITH HORNbSMALL LETTER U WITH HORNbCAPITAL LETTER UPSILONdV WITH ",
    "HOOKdY WITH HOOKbSMALL LETTER Y WITH HOOKbCAPITAL LETTER Z WITH STROKEbSMALL LETTER Z ",
    "WITH STROKEbCAPITAL LETTER EZHeREVERSEDbSMALL LETTER EZH REVERSEDeWITH TAILbLETTER TWO ",
    "WITH STROKEbCAPITAL LETTER TONE FIVEbSMALL LETTER TONE FIVEbLETTER INVERTED GLOTTAL STOP ",
    "WITH STROKEcWYNNcDENTAL CLICKcLATERAL CLICKcALVEOLAR CLICKcRETROFLEX CLICKbCAPITAL LETTER ",
    "DZ WITH CARONdD WITH SMALL LETTER Z WITH CARONbSMALL LETTER DZ WITH CARONbCAPITAL LETTER ",
    "LJdL WITH SMALL LETTER JbSMALL LETTER LJbCAPITAL LETTER NJdN WITH SMALL LETTER JbSMALL ",
    "LETTER NJbCAPITAL LETTER A WITH CARONbSMALL LETTER A WITH CARONbCAPITAL LETTER I WITH ",
    "CARONbSMALL LETTER I WITH CARONbCAPITAL LETTER O WITH CARONbSMALL LETTER O WITH CARON",
    "bCAPITAL LETTER U WITH CARONbSMALL LETTER U WITH CARONbCAPITAL LETTER U WITH DIAERESIS ",
    "AND MACRONbSMALL LETTER U WITH DIAERESIS AND MACRONbCAPITAL LETTER U WITH DIAERESIS AND ",
    "ACUTEbSMALL LETTER U WITH DIAERESIS AND ACUTEbCAPITAL LETTER U WITH DIAERESIS AND CARON",
    "bSMALL LETTER U WITH DIAERESIS AND CARONbCAPITAL LETTER U WITH DIAERESIS AND GRAVEbSMALL ",
    "LETTER U WITH DIAERESIS AND GRAVEdTURNED EbCAPITAL LETTER A WITH DIAERESIS AND MACRON",
    "bSMALL LETTER A WITH DIAERESIS AND MACRONbCAPITAL LETTER A WITH DOT ABOVE AND MACRON",
    "bSMALL LETTER A WITH DOT ABOVE AND MACRONbCAPITAL LETTER AE WITH MACRONbSMALL LETTER AE ",
    "WITH MACRONbCAPITAL LETTER G WITH STROKEbSMALL LETTER G WITH STROKEbCAPITAL LETTER G WITH ",
    "CARONbSMALL LETTER G WITH CARONbCAPITAL LETTER K WITH CARONbSMALL LETTER K WITH CARON",
    "bCAPITAL LETTER O WITH OGONEKbSMALL LETTER O WITH OGONEKbCAPITAL LETTER O WITH OGONEK AND ",
    "MACRONbSMALL LETTER O WITH OGONEK AND MACRONbCAPITAL LETTER EZH WITH CARONbSMALL LETTER ",
    "EZH WITH CARONdJ WITH CARONbCAPITAL LETTER DZdD WITH SMALL LETTER ZbSMALL LETTER DZ",
    "bCAPITAL LETTER G WITH ACUTEbSMALL LETTER G WITH ACUTEbCAPITAL LETTER HWAIRdWYNNdN WITH ",
    "GRAVEbSMALL LETTER N WITH GRAVEbCAPITAL LETTER A WITH RING ABOVE AND ACUTEbSMALL LETTER A ",
    "WITH RING ABOVE AND ACUTEbCAPITAL LETTER AE WITH ACUTEbSMALL LETTER AE WITH ACUTEbCAPITAL ",
    "LETTER O WITH STROKE AND ACUTEbSMALL LETTER O WITH STROKE AND ACUTEbCAPITAL LETTER A WITH ",
    "DOUBLE GRAVEbSMALL LETTER A WITH DOUBLE GRAVEbCAPITAL LETTER A WITH INVERTED BREVEbSMALL ",
    "LETTER A WITH INVERTED BREVEbCAPITAL LETTER E WITH DOUBLE GRAVEbSMALL LETTER E WITH ",
    "DOUBLE GRAVEbCAPITAL LETTER E WITH INVERTED BREVEbSMALL LETTER E WITH INVERTED BREVE",
    "bCAPITAL LETTER I WITH DOUBLE GRAVEbSMALL LETTER I WITH DOUBLE GRAVEbCAPITAL LETTER I ",
    "WITH INVERTED BREVEbSMALL LETTER I WITH INVERTED BREVEbCAPITAL LETTER O WITH DOUBLE GRAVE",
    "bSMALL LETTER O WITH DOUBLE GRAVEbCAPITAL LETTER O WITH INVERTED BREVEbSMALL LETTER O ",
    "WITH INVERTED BREVEbCAPITAL LETTER R WITH DOUBLE GRAVEbSMALL LETTER R WITH DOUBLE GRAVE",
    "bCAPITAL LETTER R WITH INVERTED BREVEbSMALL LETTER R WITH INVERTED BREVEbCAPITAL LETTER U ",
    "WITH DOUBLE GRAVEbSMALL LETTER U WITH DOUBLE GRAVEbCAPITAL LETTER U WITH INVERTED BREVE",
    "bSMALL LETTER U WITH INVERTED BREVEbCAPITAL LETTER S WITH COMMA BELOWbSMALL LETTER S WITH ",
    "COMMA BELOWbCAPITAL LETTER T WITH COMMA BELOWbSMALL LETTER T WITH COMMA BELOWbCAPITAL ",
    "LETTER YOGHbSMALL LETTER YOGHbCAPITAL LETTER H WITH CARONbSMALL LETTER H WITH CARON",
    "bCAPITAL LETTER N WITH LONG RIGHT LEGbSMALL LETTER D WITH CURLbCAPITAL LETTER OUbSMALL ",
    "LETTER OUbCAPITAL LETTER Z WITH HOOKbSMALL LETTER Z WITH HOOKbCAPITAL LETTER A WITH DOT ",
    "ABOVEbSMALL LETTER A WITH DOT ABOVEbCAPITAL LETTER E WITH CEDILLAbSMALL LETTER E WITH ",
    "CEDILLAbCAPITAL LETTER O WITH DIAERESIS AND MACRONbSMALL LETTER O WITH DIAERESIS AND ",
    "MACRONbCAPITAL LETTER O WITH TILDE AND MACRONbSMALL LETTER O WITH TILDE AND MACRON",
    "bCAPITAL LETTER O WITH DOT ABOVEbSMALL LETTER O WITH DOT ABOVEbCAPITAL LETTER O WITH DOT ",
    "ABOVE AND MACRONbSMALL LETTER O WITH DOT ABOVE AND MACRONbCAPITAL LETTER Y WITH MACRON",
    "bSMALL LETTER Y WITH MACRONdL WITH CURLdN WITH CURLdT WITH CURLdDOTLESS JdDB DIGRAPHdQP ",
    "DIGRAPHbCAPITAL LETTER A WITH STROKEdC WITH STROKEbSMALL LETTER C WITH STROKEbCAPITAL ",
    "LETTER L WITH BARdT WITH DIAGONAL STROKEbSMALL LETTER S WITH SWASH TAILdZ WITH SWASH TAIL",
    "bCAPITAL LETTER GLOTTAL STOPbSMALL LETTER GLOTTAL STOPbCAPITAL LETTER B WITH STROKEdU BAR",
    "dTURNED VdE WITH STROKEbSMALL LETTER E WITH STROKEbCAPITAL LETTER J WITH STROKEbSMALL ",
    "LETTER J WITH STROKEbCAPITAL LETTER SMALL Q WITH HOOK TAILbSMALL LETTER Q WITH HOOK TAIL",
    "bCAPITAL LETTER R WITH STROKEbSMALL LETTER R WITH STROKEbCAPITAL LETTER Y WITH STROKE",
    "bSMALL LETTER Y WITH STROKEdTURNED AdALPHAdTURNED ALPHAdB WITH HOOKdOPEN OdC WITH CURLdD ",
    "WITH TAILfHOOKdREVERSED EdSCHWAeWITH HOOKdOPEN EdREVERSED OPEN EgWITH HOOKdCLOSED ",
    "REVERSED OPEN EdDOTLESS J WITH STROKEdG WITH HOOKdSCRIPT GbLETTER SMALL CAPITAL GbSMALL ",
    "LETTER GAMMAdRAMS HORNdTURNED HdH WITH HOOKdHENG WITH HOOKdI WITH STROKEdIOTAbLETTER ",
    "SMALL CAPITAL IbSMALL LETTER L WITH MIDDLE TILDEfBELTfRETROFLEX HOOKdLEZHdTURNED MfWITH ",
    "LONG LEGdM WITH HOOKdN WITH LEFT HOOKfRETROFLEX HOOKbLETTER SMALL CAPITAL NbSMALL LETTER ",
    "BARRED ObLETTER SMALL CAPITAL OEbSMALL LETTER CLOSED OMEGAdPHIdTURNED RfWITH LONG LEGgHOOK",
    "dR WITH LONG LEGfTAILfFISHHOOKdREVERSED R WITH FISHHOOKbLETTER SMALL CAPITAL ReINVERTED R",
    "bSMALL LETTER S WITH HOOKdESHdDOTLESS J WITH STROKE AND HOOKdSQUAT REVERSED ESHdESH WITH ",
    "CURLdTURNED TdT WITH RETROFLEX HOOKdU BARdUPSILONdV WITH HOOKdTURNED VeWeYbLETTER SMALL ",
    "CAPITAL YbSMALL LETTER Z WITH RETROFLEX HOOKfCURLdEZHeWITH CURLbLETTER GLOTTAL STOP",
    "cPHARYNGEAL VOICED FRICATIVEcINVERTED GLOTTAL STOPcSTRETCHED CcBILABIAL CLICKcSMALL ",
    "CAPITAL BbSMALL LETTER CLOSED OPEN EbLETTER SMALL CAPITAL G WITH HOOKeHbSMALL LETTER J ",
    "WITH CROSSED-TAILdTURNED KbLETTER SMALL CAPITAL LbSMALL LETTER Q WITH HOOKbLETTER GLOTTAL ",
    "STOP WITH STROKEcREVERSED GLOTTAL STOP WITH STROKEbSMALL LETTER DZ DIGRAPHdDEZH DIGRAPH",
    "dDZ DIGRAPH WITH CURLdTS DIGRAPHdTESH DIGRAPHdTC DIGRAPH WITH CURLdFENG DIGRAPHdLS DIGRAPH",
    "dLZ DIGRAPHbLETTER BILABIAL PERCUSSIVEcBIDENTAL PERCUSSIVEbSMALL LETTER TURNED H WITH ",
    "FISHHOOKhAND TAILaMODIFIER LETTER SMALL HeWITH HOOKdJdRdTURNED RfWITH HOOKdCAPITAL ",
    "INVERTED RdWdYcPRIMEcDOUBLE PRIMEcTURNED COMMAcAPOSTROPHEcREVERSED COMMAcRIGHT HALF RING",
    "cLEFT HALF RINGcGLOTTAL STOPcREVERSED GLOTTAL STOPcLEFT ARROWHEADcRIGHT ARROWHEADcUP ",
    "ARROWHEADcDOWN ARROWHEADcCIRCUMFLEX ACCENTaCARONaMODIFIER LETTER VERTICAL LINEcMACRON",
    "cACUTE ACCENTcGRAVE ACCENTcLOW VERTICAL LINEdMACRONdGRAVE ACCENTdACUTE ACCENTcTRIANGULAR ",
    "COLONcHALF TRIANGULAR COLONcCENTRED RIGHT HALF RINGdLEFT HALF RINGcUP TACKcDOWN TACKcPLUS ",
    "SIGNcMINUS SIGNaBREVEaDOT ABOVEaRING ABOVEaOGONEKaSMALL TILDEaDOUBLE ACUTE ACCENT",
    "aMODIFIER LETTER RHOTIC HOOKcCROSS ACCENTcSMALL GAMMAdLdSdXdREVERSED GLOTTAL STOP",
    "cEXTRA-HIGH TONE BARcHIGH TONE BARcMID TONE BARcLOW TONE BARcEXTRA-LOW TONE BARcYIN ",
    "DEPARTING TONE MARKcYANG DEPARTING TONE MARKcVOICINGcUNASPIRATEDcDOUBLE APOSTROPHEcLOW ",
    "DOWN ARROWHEADdUP ARROWHEADdLEFT ARROWHEADdRIGHT ARROWHEADdRINGcMIDDLE GRAVE ACCENT",
    "dDOUBLE GRAVE ACCENTeACUTE ACCENTcLOW TILDEcRAISED COLONcBEGIN HIGH TONEcEND HIGH TONE",
    "cBEGIN LOW TONEcEND LOW TONEcSHELFcOPEN SHELFcLOW LEFT ARROWaCOMBINING GRAVE ACCENTbACUTE ",
    "ACCENTbCIRCUMFLEX ACCENTbTILDEbMACRONbOVERLINEbBREVEbDOT ABOVEbDIAERESISbHOOK ABOVEbRING ",
    "ABOVEbDOUBLE ACUTE ACCENTbCARONbVERTICAL LINE ABOVEbDOUBLE VERTICAL LINE ABOVEcGRAVE ",
    "ACCENTbCANDRABINDUbINVERTED BREVEbTURNED COMMA ABOVEbCOMMA ABOVEbREVERSED COMMA ABOVE",
    "bCOMMA ABOVE RIGHTbGRAVE ACCENT BELOWbACUTE ACCENT BELOWbLEFT TACK BELOWbRIGHT TACK BELOW",
    "bLEFT ANGLE ABOVEbHORNbLEFT HALF RING BELOWbUP TACK BELOWbDOWN TACK BELOWbPLUS SIGN BELOW",
    "bMINUS SIGN BELOWbPALATALIZED HOOK BELOWbRETROFLEX HOOK BELOWbDOT BELOWbDIAERESIS BELOW",
    "bRING BELOWbCOMMA BELOWbCEDILLAbOGONEKbVERTICAL LINE BELOWbBRIDGE BELOWbINVERTED DOUBLE ",
    "ARCH BELOWbCARON BELOWbCIRCUMFLEX ACCENT BELOWbBREVE BELOWbINVERTED BREVE BELOWbTILDE ",
    "BELOWbMACRON BELOWbLOW LINEbDOUBLE LOW LINEbTILDE OVERLAYbSHORT STROKE OVERLAYbLONG ",
    "STROKE OVERLAYbSHORT SOLIDUS OVERLAYbLONG SOLIDUS OVERLAYbRIGHT HALF RING BELOWbINVERTED ",
    "BRIDGE BELOWbSQUARE BELOWbSEAGULL BELOWbX ABOVEbVERTICAL TILDEbDOUBLE OVERLINEbGRAVE TONE ",
    "MARKbACUTE TONE MARKbGREEK PERISPOMENIcKORONIScDIALYTIKA TONOScYPOGEGRAMMENIbBRIDGE ABOVE",
    "bEQUALS SIGN BELOWbDOUBLE VERTICAL LINE BELOWbLEFT ANGLE BELOWbNOT TILDE ABOVEbHOMOTHETIC ",
    "ABOVEbALMOST EQUAL TO ABOVEbLEFT RIGHT ARROW BELOWbUPWARDS ARROW BELOWbGRAPHEME JOINER",
    "bRIGHT ARROWHEAD ABOVEbLEFT HALF RING ABOVEbFERMATAbX BELOWbLEFT ARROWHEAD BELOWbRIGHT ",
    "ARROWHEAD BELOWdAND UP ARROWHEAD BELOWcHALF RING ABOVEbDOT ABOVE RIGHTbASTERISK BELOW",
    "bDOUBLE RING BELOWbZIGZAG ABOVEbDOUBLE BREVE BELOWdcMACRONdBELOWcTILDEcINVERTED BREVE",
    "cRIGHTWARDS ARROW BELOWbLATIN SMALL LETTER AeEeIeOeUeCeDeHeMeReTeVeXaGREEK CAPITAL LETTER ",
    "HETAbSMALL LETTER HETAbCAPITAL LETTER ARCHAIC SAMPIbSMALL LETTER ARCHAIC SAMPIbNUMERAL ",
    "SIGNbLOWER NUMERAL SIGNbCAPITAL LETTER PAMPHYLIAN DIGAMMAbSMALL LETTER PAMPHYLIAN DIGAMMA"]⟩,
   ⟨0x37A, ["aGREEK YPOGEGRAMMENIbSMALL REVERSED LUNATE SIGMA SYMBOLcDOTTED LUNATE SIGMA ",
    "SYMBOLcREVERSED DOTTED LUNATE SIGMA SYMBOLbQUESTION MARKbCAPITAL LETTER YOT"]⟩,
   ⟨0x384, ["aGREEK TONOSbDIALYTIKA TONOSbCAPITAL LETTER ALPHA WITH TONOSbANO TELEIAbCAPITAL ",
    "LETTER EPSILON WITH TONOSdETA WITH TONOSdIOTA WITH TONOS"]⟩,
   ⟨0x38C, ["aGREEK CAPITAL LETTER OMICRON WITH TONOS"]⟩,
   ⟨0x38E, ["aGREEK CAPITAL LETTER UPSILON WITH TONOSdOMEGA WITH TONOSbSMALL LETTER IOTA WITH ",
    "DIALYTIKA AND TONOSbCAPITAL LETTER ALPHAdBETAdGAMMAdDELTAdEPSILONdZETAdETAdTHETAdIOTA",
    "dKAPPAdLAMDAdMUdNUdXIdOMICRONdPIdRHO"]⟩,
   ⟨0x3A3, ["aGREEK CAPITAL LETTER SIGMAdTAUdUPSILONdPHIdCHIdPSIdOMEGAdIOTA WITH DIALYTIKA",
    "dUPSILON WITH DIALYTIKAbSMALL LETTER ALPHA WITH TONOSdEPSILON WITH TONOSdETA WITH TONOS",
    "dIOTA WITH TONOSdUPSILON WITH DIALYTIKA AND TONOSdALPHAdBETAdGAMMAdDELTAdEPSILONdZETAdETA",
    "dTHETAdIOTAdKAPPAdLAMDAdMUdNUdXIdOMICRONdPIdRHOdFINAL SIGMAdSIGMAdTAUdUPSILONdPHIdCHIdPSI",
    "dOMEGAdIOTA WITH DIALYTIKAdUPSILON WITH DIALYTIKAdOMICRON WITH TONOSdUPSILON WITH TONOS",
    "dOMEGA WITH TONOSbCAPITAL KAI SYMBOLbBETA SYMBOLbTHETA SYMBOLbUPSILON WITH HOOK SYMBOL",
    "dACUTE AND HOOK SYMBOLdDIAERESIS AND HOOK SYMBOLbPHI SYMBOLbPI SYMBOLbKAI SYMBOLbLETTER ",
    "ARCHAIC KOPPAbSMALL LETTER ARCHAIC KOPPAbLETTER STIGMAbSMALL LETTER STIGMAbLETTER DIGAMMA",
    "bSMALL LETTER DIGAMMAbLETTER KOPPAbSMALL LETTER KOPPAbLETTER SAMPIbSMALL LETTER SAMPI",
    "aCOPTIC CAPITAL LETTER SHEIbSMALL LETTER SHEIbCAPITAL LETTER FEIbSMALL LETTER FEIbCAPITAL ",
    "LETTER KHEIbSMALL LETTER KHEIbCAPITAL LETTER HORIbSMALL LETTER HORIbCAPITAL LETTER GANGIA",
    "bSMALL LETTER GANGIAbCAPITAL LETTER SHIMAbSMALL LETTER SHIMAbCAPITAL LETTER DEIbSMALL ",
    "LETTER DEIaGREEK KAPPA SYMBOLbRHO SYMBOLbLUNATE SIGMA SYMBOLbLETTER YOTbCAPITAL THETA ",
    "SYMBOLbLUNATE EPSILON SYMBOLbREVERSED LUNATE EPSILON SYMBOLbCAPITAL LETTER SHObSMALL ",
    "LETTER SHObCAPITAL LUNATE SIGMA SYMBOLcLETTER SANbSMALL LETTER SANbRHO WITH STROKE SYMBOL",
    "bCAPITAL REVERSED LUNATE SIGMA SYMBOLcDOTTED LUNATE SIGMA SYMBOLcREVERSED DOTTED LUNATE ",
    "SIGMA SYMBOLaCYRILLIC CAPITAL LETTER IE WITH GRAVEdIOdDJEdGJEdUKRAINIAN IEdDZE",
    "dBYELORUSSIAN-UKRAINIAN IdYIdJEdLJEdNJEdTSHEdKJEdI WITH GRAVEdSHORT UdDZHEdAdBEdVEdGHEdDE",
    "dIEdZHEdZEdIdSHORT IdKAdELdEMdENdOdPEdERdESdTEdUdEFdHAdTSEdCHEdSHAdSHCHAdHARD SIGNdYERU",
    "dSOFT SIGNdEdYUdYAbSMALL LETTER AdBEdVEdGHEdDEdIEdZHEdZEdIdSHORT IdKAdELdEMdENdOdPEdERdES",
    "dTEdUdEFdHAdTSEdCHEdSHAdSHCHAdHARD SIGNdYERUdSOFT SIGNdEdYUdYAdIE WITH GRAVEdIOdDJEdGJE",
    "dUKRAINIAN IEdDZEdBYELORUSSIAN-UKRAINIAN IdYIdJEdLJEdNJEdTSHEdKJEdI WITH GRAVEdSHORT U",
    "dDZHEbCAPITAL LETTER OMEGAbSMALL LETTER OMEGAbCAPITAL LETTER YATbSMALL LETTER YATbCAPITAL ",
    "LETTER IOTIFIED EbSMALL LETTER IOTIFIED EbCAPITAL LETTER LITTLE YUSbSMALL LETTER LITTLE ",
    "YUSbCAPITAL LETTER IOTIFIED LITTLE YUSbSMALL LETTER IOTIFIED LITTLE YUSbCAPITAL LETTER ",
    "BIG YUSbSMALL LETTER BIG YUSbCAPITAL LETTER IOTIFIED BIG YUSbSMALL LETTER IOTIFIED BIG YUS",
    "bCAPITAL LETTER KSIbSMALL LETTER KSIbCAPITAL LETTER PSIbSMALL LETTER PSIbCAPITAL LETTER ",
    "FITAbSMALL LETTER FITAbCAPITAL LETTER IZHITSAbSMALL LETTER IZHITSAbCAPITAL LETTER IZHITSA ",
    "WITH DOUBLE GRAVE ACCENTbSMALL LETTER IZHITSA WITH DOUBLE GRAVE ACCENTbCAPITAL LETTER UK",
    "bSMALL LETTER UKbCAPITAL LETTER ROUND OMEGAbSMALL LETTER ROUND OMEGAbCAPITAL LETTER OMEGA ",
    "WITH TITLObSMALL LETTER OMEGA WITH TITLObCAPITAL LETTER OTbSMALL LETTER OTbCAPITAL LETTER ",
    "KOPPAbSMALL LETTER KOPPAbTHOUSANDS SIGNaCOMBINING CYRILLIC TITLOcPALATALIZATIONcDASIA ",
    "PNEUMATAcPSILI PNEUMATAcPOKRYTIEcHUNDRED THOUSANDS SIGNcMILLIONS SIGNaCYRILLIC CAPITAL ",
    "LETTER SHORT I WITH TAILbSMALL LETTER SHORT I WITH TAILbCAPITAL LETTER SEMISOFT SIGN",
    "bSMALL LETTER SEMISOFT SIGNbCAPITAL LETTER ER WITH TICKbSMALL LETTER ER WITH TICKbCAPITAL ",
    "LETTER GHE WITH UPTURNbSMALL LETTER GHE WITH UPTURNbCAPITAL LETTER GHE WITH STROKEbSMALL ",
    "LETTER GHE WITH STROKEbCAPITAL LETTER GHE WITH MIDDLE HOOKbSMALL LETTER GHE WITH MIDDLE ",
    "HOOKbCAPITAL LETTER ZHE WITH DESCENDERbSMALL LETTER ZHE WITH DESCENDERbCAPITAL LETTER ZE ",
    "WITH DESCENDERbSMALL LETTER ZE WITH DESCENDERbCAPITAL LETTER KA WITH DESCENDERbSMALL ",
    "LETTER KA WITH DESCENDERbCAPITAL LETTER KA WITH VERTICAL STROKEbSMALL LETTER KA WITH ",
    "VERTICAL STROKEbCAPITAL LETTER KA WITH STROKEbSMALL LETTER KA WITH STROKEbCAPITAL LETTER ",
    "BASHKIR KAbSMALL LETTER BASHKIR KAbCAPITAL LETTER EN WITH DESCENDERbSMALL LETTER EN WITH ",
    "DESCENDERbCAPITAL LIGATURE EN GHEbSMALL LIGATURE EN GHEbCAPITAL LETTER PE WITH MIDDLE HOOK",
    "bSMALL LETTER PE WITH MIDDLE HOOKbCAPITAL LETTER ABKHASIAN HAbSMALL LETTER ABKHASIAN HA",
    "bCAPITAL LETTER ES WITH DESCENDERbSMALL LETTER ES WITH DESCENDERbCAPITAL LETTER TE WITH ",
    "DESCENDERbSMALL LETTER TE WITH DESCENDERbCAPITAL LETTER STRAIGHT UbSMALL LETTER STRAIGHT U",
    "bCAPITAL LETTER STRAIGHT U WITH STROKEbSMALL LETTER STRAIGHT U WITH STROKEbCAPITAL LETTER ",
    "HA WITH DESCENDERbSMALL LETTER HA WITH DESCENDERbCAPITAL LIGATURE TE TSEbSMALL LIGATURE ",
    "TE TSEbCAPITAL LETTER CHE WITH DESCENDERbSMALL LETTER CHE WITH DESCENDERbCAPITAL LETTER ",
    "CHE WITH VERTICAL STROKEbSMALL LETTER CHE WITH VERTICAL STROKEbCAPITAL LETTER SHHAbSMALL ",
    "LETTER SHHAbCAPITAL LETTER ABKHASIAN CHEbSMALL LETTER ABKHASIAN CHEbCAPITAL LETTER ",
    "ABKHASIAN CHE WITH DESCENDERbSMALL LETTER ABKHASIAN CHE WITH DESCENDERbLETTER PALOCHKA",
    "bCAPITAL LETTER ZHE WITH BREVEbSMALL LETTER ZHE WITH BREVEbCAPITAL LETTER KA WITH HOOK",
    "bSMALL LETTER KA WITH HOOKbCAPITAL LETTER EL WITH TAILbSMALL LETTER EL WITH TAILbCAPITAL ",
    "LETTER EN WITH HOOKbSMALL LETTER EN WITH HOOKbCAPITAL LETTER EN WITH TAILbSMALL LETTER EN ",
    "WITH TAILbCAPITAL LETTER KHAKASSIAN CHEbSMALL LETTER KHAKASSIAN CHEbCAPITAL LETTER EM ",
    "WITH TAILbSMALL LETTER EM WITH TAILdPALOCHKAbCAPITAL LETTER A WITH BREVEbSMALL LETTER A ",
    "WITH BREVEbCAPITAL LETTER A WITH DIAERESISbSMALL LETTER A WITH DIAERESISbCAPITAL LIGATURE ",
    "A IEbSMALL LIGATURE A IEbCAPITAL LETTER IE WITH BREVEbSMALL LETTER IE WITH BREVEbCAPITAL ",
    "LETTER SCHWAbSMALL LETTER SCHWAbCAPITAL LETTER SCHWA WITH DIAERESISbSMALL LETTER SCHWA ",
    "WITH DIAERESISbCAPITAL LETTER ZHE WITH DIAERESISbSMALL LETTER ZHE WITH DIAERESISbCAPITAL ",
    "LETTER ZE WITH DIAERESISbSMALL LETTER ZE WITH DIAERESISbCAPITAL LETTER ABKHASIAN DZE",
    "bSMALL LETTER ABKHASIAN DZEbCAPITAL LETTER I WITH MACRONbSMALL LETTER I WITH MACRON",
    "bCAPITAL LETTER I WITH DIAERESISbSMALL LETTER I WITH DIAERESISbCAPITAL LETTER O WITH ",
    "DIAERESISbSMALL LETTER O WITH DIAERESISbCAPITAL LETTER BARRED ObSMALL LETTER BARRED O",
    "bCAPITAL LETTER BARRED O WITH DIAERESISbSMALL LETTER BARRED O WITH DIAERESISbCAPITAL ",
    "LETTER E WITH DIAERESISbSMALL LETTER E WITH DIAERESISbCAPITAL LETTER U WITH MACRONbSMALL ",
    "LETTER U WITH MACRONbCAPITAL LETTER U WITH DIAERESISbSMALL LETTER U WITH DIAERESIS",
    "bCAPITAL LETTER U WITH DOUBLE ACUTEbSMALL LETTER U WITH DOUBLE ACUTEbCAPITAL LETTER CHE ",
    "WITH DIAERESISbSMALL LETTER CHE WITH DIAERESISbCAPITAL LETTER GHE WITH DESCENDERbSMALL ",
    "LETTER GHE WITH DESCENDERbCAPITAL LETTER YERU WITH DIAERESISbSMALL LETTER YERU WITH ",
    "DIAERESISbCAPITAL LETTER GHE WITH STROKE AND HOOKbSMALL LETTER GHE WITH STROKE AND HOOK",
    "bCAPITAL LETTER HA WITH HOOKbSMALL LETTER HA WITH HOOKbCAPITAL LETTER HA WITH STROKE",
    "bSMALL LETTER HA WITH STROKEbCAPITAL LETTER KOMI DEbSMALL LETTER KOMI DEbCAPITAL LETTER ",
    "KOMI DJEbSMALL LETTER KOMI DJEbCAPITAL LETTER KOMI ZJEbSMALL LETTER KOMI ZJEbCAPITAL ",
    "LETTER KOMI DZJEbSMALL LETTER KOMI DZJEbCAPITAL LETTER KOMI LJEbSMALL LETTER KOMI LJE",
    "bCAPITAL LETTER KOMI NJEbSMALL LETTER KOMI NJEbCAPITAL LETTER KOMI SJEbSMALL LETTER KOMI ",
    "SJEbCAPITAL LETTER KOMI TJEbSMALL LETTER KOMI TJEbCAPITAL LETTER REVERSED ZEbSMALL LETTER ",
    "REVERSED ZEbCAPITAL LETTER EL WITH HOOKbSMALL LETTER EL WITH HOOKbCAPITAL LETTER LHA",
    "bSMALL LETTER LHAbCAPITAL LETTER RHAbSMALL LETTER RHAbCAPITAL LETTER YAEbSMALL LETTER YAE",
    "bCAPITAL LETTER QAbSMALL LETTER QAbCAPITAL LETTER WEbSMALL LETTER WEbCAPITAL LETTER ALEUT ",
    "KAbSMALL LETTER ALEUT KAbCAPITAL LETTER EL WITH MIDDLE HOOKbSMALL LETTER EL WITH MIDDLE ",
    "HOOKbCAPITAL LETTER EN WITH MIDDLE HOOKbSMALL LETTER EN WITH MIDDLE HOOKbCAPITAL LETTER ",
    "PE WITH DESCENDERbSMALL LETTER PE WITH DESCENDERbCAPITAL LETTER SHHA WITH DESCENDERbSMALL ",
    "LETTER SHHA WITH DESCENDERbCAPITAL LETTER EN WITH LEFT HOOKbSMALL LETTER EN WITH LEFT HOOK",
    "bCAPITAL LETTER DZZHEbSMALL LETTER DZZHEbCAPITAL LETTER DCHEbSMALL LETTER DCHEbCAPITAL ",
    "LETTER EL WITH DESCENDERbSMALL LETTER EL WITH DESCENDER"]⟩,
   ⟨0x531, ["aARMENIAN CAPITAL LETTER AYBdBENdGIMdDAdECHdZAdEHdETdTOdZHEdINIdLIWNdXEHdCAdKEN",
    "dHOdJAdGHADdCHEHdMENdYIdNOWdSHAdVOdCHAdPEHdJHEHdRAdSEHdVEWdTIWNdREHdCOdYIWNdPIWRdKEHdOH",
    "dFEH"]⟩,
   ⟨0x559, ["aARMENIAN MODIFIER LETTER LEFT HALF RINGbAPOSTROPHEbEMPHASIS MARKbEXCLAMATION ",
    "MARKbCOMMAbQUESTION MARKbABBREVIATION MARKbSMALL LETTER TURNED AYBdAYBdBENdGIMdDAdECHdZA",
    "dEHdETdTOdZHEdINIdLIWNdXEHdCAdKENdHOdJAdGHADdCHEHdMENdYIdNOWdSHAdVOdCHAdPEHdJHEHdRAdSEH",
    "dVEWdTIWNdREHdCOdYIWNdPIWRdKEHdOHdFEHcLIGATURE ECH YIWNcLETTER YI WITH STROKEbFULL STOP",
    "bHYPHEN"]⟩,
   ⟨0x58D, ["aRIGHT-FACING ARMENIAN ETERNITY SIGNaLEFT-FACING ARMENIAN ETERNITY SIGNaARMENIAN ",
    "DRAM SIGN"]⟩,
   ⟨0x591, ["aHEBREW ACCENT ETNAHTAcSEGOLcSHALSHELETcZAQEF QATANdGADOLcTIPEHAcREVIAcZARQA",
    "cPASHTAcYETIVcTEVIRcGERESHdMUQDAMcGERSHAYIMcQARNEY PARAcTELISHA GEDOLAcPAZERcATNAH HAFUKH",
    "cMUNAHcMAHAPAKHcMERKHAdKEFULAcDARGAcQADMAcTELISHA QETANAcYERAH BEN YOMOcOLEcILUYcDEHI",
    "cZINORbMARK MASORA CIRCLEbPOINT SHEVAcHATAF SEGOLdPATAHdQAMATScHIRIQcTSEREcSEGOLcPATAH",
    "cQAMATScHOLAMdHASER FOR VAVcQUBUTScDAGESH OR MAPIQcMETEGbPUNCTUATION MAQAFbPOINT RAFE",
    "bPUNCTUATION PASEQbPOINT SHIN DOTcSIN DOTbPUNCTUATION SOF PASUQbMARK UPPER DOTcLOWER DOT",
    "bPUNCTUATION NUN HAFUKHAbPOINT QAMATS QATAN"]⟩,
   ⟨0x5D0, ["aHEBREW LETTER ALEFcBETcGIMELcDALETcHEcVAVcZAYINcHETcTETcYODcFINAL KAFcKAFcLAMED",
    "cFINAL MEMcMEMcFINAL NUNcNUNcSAMEKHcAYINcFINAL PEcPEcFINAL TSADIcTSADIcQOFcRESHcSHINcTAV"]⟩,
   ⟨0x5EF, ["aHEBREW YOD TRIANGLEbLIGATURE YIDDISH DOUBLE VAVdVAV YODdDOUBLE YODbPUNCTUATION ",
    "GERESHcGERSHAYIM"]⟩,
   ⟨0x600, ["aARABIC NUMBER SIGNbSIGN SANAHbFOOTNOTE MARKERbSIGN SAFHAcSAMVATbNUMBER MARK ",
    "ABOVEaARABIC-INDIC CUBE ROOTbFOURTH ROOTaARABIC RAYaARABIC-INDIC PER MILLE SIGNcTEN ",
    "THOUSAND SIGNaAFGHANI SIGNaARABIC COMMAbDATE SEPARATORbPOETIC VERSE SIGNbSIGN MISRA",
    "cSALLALLAHOU ALAYHE WASSALLAMcALAYHE ASSALLAMcRAHMATULLAH ALAYHEcRADI ALLAHOU ANHU",
    "cTAKHALLUSbSMALL HIGH TAHdLIGATURE ALEF WITH LAM WITH YEHdZAINcFATHAcDAMMAcKASRAbSEMICOLON",
    "bLETTER MARKbEND OF TEXT MARKbTRIPLE DOT PUNCTUATION MARKbQUESTION MARKbLETTER KASHMIRI ",
    "YEHcHAMZAcALEF WITH MADDA ABOVEeHAMZA ABOVEcWAW WITH HAMZA ABOVEcALEF WITH HAMZA BELOW",
    "cYEH WITH HAMZA ABOVEcALEFcBEHcTEH MARBUTAdcTHEHcJEEMcHAHcKHAHcDALcTHALcREHcZAINcSEEN",
    "cSHEENcSADcDADcTAHcZAHcAINcGHAINcKEHEH WITH TWO DOTS ABOVEeTHREE DOTS BELOWcFARSI YEH ",
    "WITH INVERTED VfTWO DOTS ABOVEfTHREE DOTS ABOVEbTATWEELbLETTER FEHcQAFcKAFcLAMcMEEMcNOON",
    "cHEHcWAWcALEF MAKSURAcYEHbFATHATANbDAMMATANbKASRATANbFATHAbDAMMAbKASRAbSHADDAbSUKUN",
    "bMADDAH ABOVEbHAMZA ABOVEcBELOWbSUBSCRIPT ALEFbINVERTED DAMMAbMARK NOON GHUNNAbZWARAKAY",
    "bVOWEL SIGN SMALL V ABOVEdINVERTED SMALL V ABOVEdDOT BELOWbREVERSED DAMMAbFATHA WITH TWO ",
    "DOTSbWAVY HAMZA BELOWaARABIC-INDIC DIGIT ZEROcONEcTWOcTHREEcFOURcFIVEcSIXcSEVENcEIGHTcNINE",
    "aARABIC PERCENT SIGNbDECIMAL SEPARATORbTHOUSANDS SEPARATORbFIVE POINTED STARbLETTER ",
    "DOTLESS BEHdQAFcSUPERSCRIPT ALEFcALEF WASLAdWITH WAVY HAMZA ABOVEgBELOWcHIGH HAMZAeALEF",
    "eWAWcU WITH HAMZA ABOVEcHIGH HAMZA YEHcTTEHcTTEHEHcBEEHcTEH WITH RINGeTHREE DOTS ABOVE ",
    "DOWNWARDScPEHcTEHEHcBEHEHcHAH WITH HAMZA ABOVEeTWO DOTS VERTICAL ABOVEcNYEHcDYEHcHAH WITH ",
    "THREE DOTS ABOVEcTCHEHcTCHEHEHcDDALcDAL WITH RINGeDOT BELOWgAND SMALL TAHcDAHALcDDAHALcDUL",
    "cDAL WITH THREE DOTS ABOVE DOWNWARDSeFOUR DOTS ABOVEcRREHcREH WITH SMALL VeRINGeDOT BELOW",
    "eSMALL V BELOWeDOT BELOW AND DOT ABOVEeTWO DOTS ABOVEcJEHcREH WITH FOUR DOTS ABOVEcSEEN ",
    "WITH DOT BELOW AND DOT ABOVEeTHREE DOTS BELOWhAND THREE DOTS ABOVEcSAD WITH TWO DOTS BELOW",
    "eTHREE DOTS ABOVEcTAH WITH THREE DOTS ABOVEcAIN WITH THREE DOTS ABOVEcDOTLESS FEHcFEH ",
    "WITH DOT MOVED BELOWfBELOWcVEHcFEH WITH THREE DOTS BELOWcPEHEHcQAF WITH DOT ABOVEeTHREE ",
    "DOTS ABOVEcKEHEHcSWASH KAFcKAF WITH RINGeDOT ABOVEcNGcKAF WITH THREE DOTS BELOWcGAFdWITH ",
    "RINGcNGOEHcGAF WITH TWO DOTS BELOWcGUEHcGAF WITH THREE DOTS ABOVEcLAM WITH SMALL VeDOT ",
    "ABOVEeTHREE DOTS ABOVEgBELOWcNOON WITH DOT BELOWdGHUNNAcRNOONcNOON WITH RINGeTHREE DOTS ",
    "ABOVEcHEH DOACHASHMEEcTCHEH WITH DOT ABOVEcHEH WITH YEH ABOVEdGOALeWITH HAMZA ABOVEcTEH ",
    "MARBUTA GOALcWAW WITH RINGcKIRGHIZ OEcOEcUcYUcKIRGHIZ YUcWAW WITH TWO DOTS ABOVEcVEcFARSI ",
    "YEHcYEH WITH TAILeSMALL VcWAW WITH DOT ABOVEcEcYEH WITH THREE DOTS BELOWdBARREEeWITH ",
    "HAMZA ABOVEbFULL STOPbLETTER AEbSMALL HIGH LIGATURE SAD WITH LAM WITH ALEF MAKSURAeQAF ",
    "WITH LAM WITH ALEF MAKSURAdMEEM INITIAL FORMdLAM ALEFdJEEMdTHREE DOTSdSEENbEND OF AYAH",
    "bSTART OF RUB EL HIZBbSMALL HIGH ROUNDED ZEROdUPRIGHT RECTANGULAR ZEROdDOTLESS HEAD OF ",
    "KHAHdMEEM ISOLATED FORMcLOW SEENcHIGH MADDAcWAWcYEHcHIGH YEHdNOONbPLACE OF SAJDAHbEMPTY ",
    "CENTRE LOW STOPdHIGH STOPbROUNDED HIGH STOP WITH FILLED CENTREbSMALL LOW MEEMbLETTER DAL ",
    "WITH INVERTED VcREH WITH INVERTED VaEXTENDED ARABIC-INDIC DIGIT ZEROdONEdTWOdTHREEdFOUR",
    "dFIVEdSIXdSEVENdEIGHTdNINEaARABIC LETTER SHEEN WITH DOT BELOWcDAD WITH DOT BELOWcGHAIN ",
    "WITH DOT BELOWbSIGN SINDHI AMPERSANDdPOSTPOSITION MENbLETTER HEH WITH INVERTED VaSYRIAC ",
    "END OF PARAGRAPHbSUPRALINEAR FULL STOPbSUBLINEAR FULL STOPbSUPRALINEAR COLONbSUBLINEAR ",
    "COLONbHORIZONTAL COLONbCOLON SKEWED LEFTdRIGHTbSUPRALINEAR COLON SKEWED LEFTbSUBLINEAR ",
    "COLON SKEWED RIGHTbCONTRACTIONbHARKLEAN OBELUScMETOBELUScASTERISCUS"]⟩,
   ⟨0x70F, ["aSYRIAC ABBREVIATION MARKbLETTER ALAPHcSUPERSCRIPT ALAPHcBETHcGAMALdGARSHUNI",
    "cDALATHcDOTLESS DALATH RISHcHEcWAWcZAINcHETHcTETHdGARSHUNIcYUDHdHEcKAPHcLAMADHcMIMcNUN",
    "cSEMKATHcFINAL SEMKATHcEcPEcREVERSED PEcSADHEcQAPHcRISHcSHINcTAWcPERSIAN BHETHdGHAMAL",
    "dDHALATHbPTHAHA ABOVEcBELOWcDOTTEDbZQAPHA ABOVEcBELOWcDOTTEDbRBASA ABOVEcBELOWbDOTTED ",
    "ZLAMA HORIZONTALdANGULARbHBASA ABOVEcBELOWbHBASA-ESASA DOTTEDbESASA ABOVEcBELOWbRWAHA",
    "bFEMININE DOTbQUSHSHAYAbRUKKAKHAbTWO VERTICAL DOTS ABOVEeBELOWbTHREE DOTS ABOVEdBELOW",
    "bOBLIQUE LINE ABOVEdBELOWbMUSICbBARREKH"]⟩,
   ⟨0x74D, ["aSYRIAC LETTER SOGDIAN ZHAINdKHAPHdFEaARABIC LETTER BEH WITH THREE DOTS ",
    "HORIZONTALLY BELOWeDOT BELOW AND THREE DOTS ABOVEeTHREE DOTS POINTING UPWARDS BELOWjAND ",
    "TWO DOTS ABOVEeTWO DOTS BELOW AND DOT ABOVEeINVERTED SMALL V BELOWeSMALL VcHAH WITH TWO ",
    "DOTS ABOVEeTHREE DOTS POINTING UPWARDS BELOWcDAL WITH TWO DOTS VERTICALLY BELOW AND SMALL ",
    "TAHeINVERTED SMALL V BELOWcREH WITH STROKEcSEEN WITH FOUR DOTS ABOVEcAIN WITH TWO DOTS ",
    "ABOVEeTHREE DOTS POINTING DOWNWARDS ABOVEeTWO DOTS VERTICALLY ABOVEcFEH WITH TWO DOTS ",
    "BELOWeTHREE DOTS POINTING UPWARDS BELOWcKEHEH WITH DOT ABOVEeTHREE DOTS ABOVEgPOINTING ",
    "UPWARDS BELOWcMEEM WITH DOT ABOVEfBELOWcNOON WITH TWO DOTS BELOWeSMALL TAHfVcLAM WITH BAR",
    "cREH WITH TWO DOTS VERTICALLY ABOVEeHAMZA ABOVEcSEEN WITH TWO DOTS VERTICALLY ABOVEcHAH ",
    "WITH SMALL ARABIC LETTER TAH BELOWiAND TWO DOTScSEEN WITH SMALL ARABIC LETTER TAH AND TWO ",
    "DOTScREH WITH SMALL ARABIC LETTER TAH AND TWO DOTScHAH WITH SMALL ARABIC LETTER TAH ABOVE",
    "cALEF WITH EXTENDED ARABIC-INDIC DIGIT TWO ABOVEhTHREE ABOVEcFARSI YEH WITH EXTENDED ",
    "ARABIC-INDIC DIGIT TWO ABOVEiTHREE ABOVEiFOUR BELOWcWAW WITH EXTENDED ARABIC-INDIC DIGIT ",
    "TWO ABOVEhTHREE ABOVEcYEH BARREE WITH EXTENDED ARABIC-INDIC DIGIT TWO ABOVEiTHREE ABOVE",
    "cHAH WITH EXTENDED ARABIC-INDIC DIGIT FOUR BELOWcSEEN WITH EXTENDED ARABIC-INDIC DIGIT ",
    "FOUR ABOVEeINVERTED VcKAF WITH TWO DOTS ABOVEaTHAANA LETTER HAAcSHAVIYANIcNOONUcRAAcBAA",
    "cLHAVIYANIcKAAFUcALIFUcVAAVUcMEEMUcFAAFUcDHAALUcTHAAcLAAMUcGAAFUcGNAVIYANIcSEENUcDAVIYANI",
    "cZAVIYANIcTAVIYANIcYAAcPAVIYANIcJAVIYANIcCHAVIYANIcTTAAcHHAAcKHAAcTHAALUcZAAcSHEENUcSAADHU",
    "cDAADHUcTOcZOcAINUcGHAINUcQAAFUcWAAVUbABAFILIbAABAAFILIbIBIFILIbEEBEEFILIbUBUFILI",
    "bOOBOOFILIbEBEFILIbEYBEYFILIbOBOFILIbOABOAFILIbSUKUNbLETTER NAA"]⟩,
   ⟨0x7C0, ["aNKO DIGIT ZEROcONEcTWOcTHREEcFOURcFIVEcSIXcSEVENcEIGHTcNINEbLETTER AcEEcIcEcUcOO",
    "cOcDAGBASINNAcNcBAcPAcTAcJAcCHAcDAcRAcRRAcSAcGBAcFAcKAcLAcNA WOLOSOcMAcNYAcNAcHAcWAcYA",
    "cNYA WOLOSOcJONA JAdCHAdRAbCOMBINING SHORT HIGH TONEdLOW TONEdRISING TONEcLONG DESCENDING ",
    "TONEdHIGH TONEdLOW TONEdRISING TONEcNASALIZATION MARKcDOUBLE DOT ABOVEbHIGH TONE ",
    "APOSTROPHEbLOW TONE APOSTROPHEbSYMBOL OO DENNENcGBAKURUNENbCOMMAbEXCLAMATION MARK",
    "bLAJANYALAN"]⟩,
   ⟨0x7FD, ["aNKO DANTAYALANbDOROME SIGNbTAMAN SIGNaSAMARITAN LETTER ALAFcBITcGAMANcDALATcIY",
    "cBAAcZENcITcTITcYUTcKAAFcLABATcMIMcNUNcSINGAATcINcFIcTSAADIYcQUFcRISHcSHANcTAAFbMARK IN",
    "cIN-ALAFcOCCLUSIONcDAGESHbMODIFIER LETTER EPENTHETIC YUTbMARK EPENTHETIC YUTbVOWEL SIGN ",
    "LONG EdEdOVERLONG AAdLONG AAdAAdOVERLONG AdLONG AdAbMODIFIER LETTER SHORT AbVOWEL SIGN ",
    "SHORT AdLONG UdUbMODIFIER LETTER IbVOWEL SIGN LONG IdIdOdSUKUNbMARK NEQUDAA"]⟩,
   ⟨0x830, ["aSAMARITAN PUNCTUATION NEQUDAAcAFSAAQcANGEDcBAUcATMAAUcSHIYYAALAAbABBREVIATION ",
    "MARKbPUNCTUATION MELODIC QITSAcZIQAAcQITSAcZAEFcTURUcARKAANUcSOF MASHFAATcANNAAU"]⟩,
   ⟨0x840, ["aMANDAIC LETTER HALQAcABcAGcADcAHcUSHENNAcAZcITcATTcAKSAcAKcALcAMcANcAScINcAPcASZ",
    "cAQcARcASHcATcDUSHENNAcKADcAINbAFFRICATION MARKbVOCALIZATION MARKbGEMINATION MARK"]⟩,
   ⟨0x85E, ["aMANDAIC PUNCTUATION"]⟩,
   ⟨0x860, ["aSYRIAC LETTER MALAYALAM NGAdJAdNYAdTTAdNNAdNNNAdBHAdRAdLLAdLLLAdSSA"]⟩,
   ⟨0x870, ["aARABIC LETTER ALEF WITH ATTACHED FATHAfTOP RIGHT FATHAeRIGHT MIDDLE STROKEeLEFT ",
    "MIDDLE STROKEeATTACHED KASRAfBOTTOM RIGHT KASRAfROUND DOT ABOVEfRIGHT ROUND DOTfLEFT ",
    "ROUND DOTfROUND DOT BELOWeDOT ABOVEeATTACHED TOP RIGHT FATHA AND DOT ABOVEeRIGHT MIDDLE ",
    "STROKE AND DOT ABOVEeATTACHED BOTTOM RIGHT KASRA AND DOT ABOVEfTOP RIGHT FATHA AND LEFT ",
    "RINGeRIGHT MIDDLE STROKE AND LEFT RINGeATTACHED BOTTOM RIGHT KASRA AND LEFT RINGfRIGHT ",
    "HAMZAfLEFT HAMZAbTATWEEL WITH OVERSTRUCK HAMZAeWAWdTWO DOTS BELOWbLETTER THIN YEH",
    "bBASELINE ROUND DOTbRAISED ROUND DOTbLETTER NOON WITH INVERTED SMALL VcHAH WITH INVERTED ",
    "SMALL V BELOWcTAH WITH DOT BELOWeTHREE DOTS BELOWcKEHEH WITH TWO DOTS VERTICALLY BELOW",
    "bVERTICAL TAIL"]⟩,
   ⟨0x890, ["aARABIC POUND MARK ABOVEbPIASTRE MARK ABOVE"]⟩,
   ⟨0x898, ["aARABIC SMALL HIGH WORD AL-JUZcLOW WORD ISHMAAMeIMAALAeTASHEELbMADDA WAAJIB",
    "bSUPERSCRIPT ALEF MOKHASSASbDOUBLED MADDAbHALF MADDA OVER MADDAbLETTER BEH WITH SMALL V ",
    "BELOWeHAMZA ABOVEcJEEM WITH TWO DOTS ABOVEcTAH WITH TWO DOTS ABOVEcFEH WITH DOT BELOW AND ",
    "THREE DOTS ABOVEcQAF WITH DOT BELOWcLAM WITH DOUBLE BARcMEEM WITH THREE DOTS ABOVEcYEH ",
    "WITH TWO DOTS BELOW AND HAMZA ABOVEiDOT ABOVEcREH WITH LOOPcWAW WITH DOT WITHINcROHINGYA ",
    "YEHcLOW ALEFcDAL WITH THREE DOTS BELOWcSAD WITH THREE DOTS BELOWcGAF WITH INVERTED STROKE",
    "cSTRAIGHT WAWcZAIN WITH INVERTED V ABOVEcAIN WITH THREE DOTS BELOWcKAF WITH DOT BELOWcQAF ",
    "WITH DOT BELOW AND NO DOTS ABOVEcBEH WITH SMALL MEEM ABOVEcPEH WITH SMALL MEEM ABOVEcTEH ",
    "WITH SMALL TEH ABOVEcREH WITH SMALL NOON ABOVEcYEH WITH TWO DOTS BELOW AND SMALL NOON ",
    "ABOVEcAFRICAN FEHdQAFdNOONcPEH WITH SMALL VcTEH WITH SMALL VcTTEH WITH SMALL VcTCHEH WITH ",
    "SMALL VcKEHEH WITH SMALL VcGHAIN WITH THREE DOTS ABOVEcAFRICAN QAF WITH THREE DOTS ABOVE",
    "cJEEM WITH THREE DOTS ABOVEgBELOWcLAM WITH SMALL ARABIC LETTER TAH ABOVEcGRAFbSMALL FARSI ",
    "YEHcHIGH FARSI YEHdYEH BARREE WITH TWO DOTS BELOWdWORD SAHdZAHbLARGE ROUND DOT ABOVEeBELOW",
    "bSUKUN BELOWbLARGE CIRCLE BELOWcROUND DOT INSIDE CIRCLE BELOWbSMALL LOW WAWcHIGH WORD ",
    "AR-RUBdSADdAINdQAFdNOON WITH KASRAcLOW NOON WITH KASRAcHIGH WORD ATH-THALATHAeAS-SAJDA",
    "eAN-NISFeSAKTAeQIFeWAQFAdFOOTNOTE MARKERdSIGN SAFHAbDISPUTED END OF AYAHbTURNED DAMMA ",
    "BELOWbCURLY FATHAcDAMMAcKASRAcFATHATANcDAMMATANcKASRATANbTONE ONE DOT ABOVEcTWO DOTS ABOVE",
    "cLOOP ABOVEcONE DOT BELOWcTWO DOTS BELOWcLOOP BELOWbOPEN FATHATANcDAMMATANcKASRATANbSMALL ",
    "HIGH WAWbFATHA WITH RINGdDOT ABOVEbKASRA WITH DOT BELOWbLEFT ARROWHEAD ABOVEbRIGHT ",
    "ARROWHEAD ABOVEbLEFT ARROWHEAD BELOWbRIGHT ARROWHEAD BELOWbDOUBLE RIGHT ARROWHEAD ABOVE",
    "fWITH DOTbRIGHT ARROWHEAD ABOVE WITH DOTbDAMMA WITH DOTbMARK SIDEWAYS NOON GHUNNA",
    "aDEVANAGARI SIGN INVERTED CANDRABINDUcCANDRABINDUcANUSVARAcVISARGAbLETTER SHORT AcAcAAcI",
    "cIIcUcUUcVOCALIC RdLcCANDRA EcSHORT EcEcAIcCANDRA OcSHORT OcOcAUcKAcKHAcGAcGHAcNGAcCAcCHA",
    "cJAcJHAcNYAcTTAcTTHAcDDAcDDHAcNNAcTAcTHAcDAcDHAcNAcNNNAcPAcPHAcBAcBHAcMAcYAcRAcRRAcLAcLLA",
    "cLLLAcVAcSHAcSSAcSAcHAbVOWEL SIGN OEdOOEbSIGN NUKTAcAVAGRAHAbVOWEL SIGN AAdIdIIdUdUU",
    "dVOCALIC ReRRdCANDRA EdSHORT EdEdAIdCANDRA OdSHORT OdOdAUbSIGN VIRAMAbVOWEL SIGN ",
    "PRISHTHAMATRA EdAWbOMbSTRESS SIGN UDATTAdANUDATTAbGRAVE ACCENTbACUTE ACCENTbVOWEL SIGN ",
    "CANDRA LONG EdUEdUUEbLETTER QAcKHHAcGHHAcZAcDDDHAcRHAcFAcYYAcVOCALIC RRdLLbVOWEL SIGN ",
    "VOCALIC LeLLbDANDAbDOUBLE DANDAbDIGIT ZEROcONEcTWOcTHREEcFOURcFIVEcSIXcSEVENcEIGHTcNINE",
    "bABBREVIATION SIGNbSIGN HIGH SPACING DOTbLETTER CANDRA AcOEcOOEcAWcUEcUUEcMARWARI DDAcZHA",
    "cHEAVY YAcGGAcJJAcGLOTTAL STOPcDDDAcBBAaBENGALI ANJIbSIGN CANDRABINDUcANUSVARAcVISARGA"]⟩,
   ⟨0x985, ["aBENGALI LETTER AcAAcIcIIcUcUUcVOCALIC RdL"]⟩, ⟨0x98F, ["aBENGALI LETTER EcAI"]⟩,
   ⟨0x993, ["aBENGALI LETTER OcAUcKAcKHAcGAcGHAcNGAcCAcCHAcJAcJHAcNYAcTTAcTTHAcDDAcDDHAcNNAcTA",
    "cTHAcDAcDHAcNA"]⟩,
   ⟨0x9AA, ["aBENGALI LETTER PAcPHAcBAcBHAcMAcYAcRA"]⟩, ⟨0x9B2, ["aBENGALI LETTER LA"]⟩,
   ⟨0x9B6, ["aBENGALI LETTER SHAcSSAcSAcHA"]⟩,
   ⟨0x9BC, ["aBENGALI SIGN NUKTAcAVAGRAHAbVOWEL SIGN AAdIdIIdUdUUdVOCALIC ReRR"]⟩,
   ⟨0x9C7, ["aBENGALI VOWEL SIGN EdAI"]⟩,
   ⟨0x9CB, ["aBENGALI VOWEL SIGN OdAUbSIGN VIRAMAbLETTER KHANDA TA"]⟩,
   ⟨0x9D7, ["aBENGALI AU LENGTH MARK"]⟩, ⟨0x9DC, ["aBENGALI LETTER RRAcRHA"]⟩,
   ⟨0x9DF, ["aBENGALI LETTER YYAcVOCALIC RRdLLbVOWEL SIGN VOCALIC LeLL"]⟩,
   ⟨0x9E6, ["aBENGALI DIGIT ZEROcONEcTWOcTHREEcFOURcFIVEcSIXcSEVENcEIGHTcNINEbLETTER RA WITH ",
    "MIDDLE DIAGONALeLOWER DIAGONALbRUPEE MARKcSIGNbCURRENCY NUMERATOR ONEdTWOdTHREEdFOURdONE ",
    "LESS THAN THE DENOMINATORcDENOMINATOR SIXTEENbISSHARbGANDA MARKbLETTER VEDIC ANUSVARA",
    "bABBREVIATION SIGNbSANDHI MARK"]⟩,
   ⟨0xA01, ["aGURMUKHI SIGN ADAK BINDIcBINDIcVISARGA"]⟩,
   ⟨0xA05, ["aGURMUKHI LETTER AcAAcIcIIcUcUU"]⟩, ⟨0xA0F, ["aGURMUKHI LETTER EEcAI"]⟩,
   ⟨0xA13, ["aGURMUKHI LETTER OOcAUcKAcKHAcGAcGHAcNGAcCAcCHAcJAcJHAcNYAcTTAcTTHAcDDAcDDHAcNNA",
    "cTAcTHAcDAcDHAcNA"]⟩,
   ⟨0xA2A, ["aGURMUKHI LETTER PAcPHAcBAcBHAcMAcYAcRA"]⟩, ⟨0xA32, ["aGURMUKHI LETTER LAcLLA"]⟩,
   ⟨0xA35, ["aGURMUKHI LETTER VAcSHA"]⟩, ⟨0xA38, ["aGURMUKHI LETTER SAcHA"]⟩,
   ⟨0xA3C, ["aGURMUKHI SIGN NUKTA"]⟩, ⟨0xA3E, ["aGURMUKHI VOWEL SIGN AAdIdIIdUdUU"]⟩,
   ⟨0xA47, ["aGURMUKHI VOWEL SIGN EEdAI"]⟩, ⟨0xA4B, ["aGURMUKHI VOWEL SIGN OOdAUbSIGN VIRAMA"]⟩,
   ⟨0xA51, ["aGURMUKHI SIGN UDAAT"]⟩, ⟨0xA59, ["aGURMUKHI LETTER KHHAcGHHAcZAcRRA"]⟩,
   ⟨0xA5E, ["aGURMUKHI LETTER FA"]⟩,
   ⟨0xA66, ["aGURMUKHI DIGIT ZEROcONEcTWOcTHREEcFOURcFIVEcSIXcSEVENcEIGHTcNINEbTIPPIbADDAKbIRI",
    "bURAbEK ONKARbSIGN YAKASHbABBREVIATION SIGN"]⟩,
   ⟨0xA81, ["aGUJARATI SIGN CANDRABINDUcANUSVARAcVISARGA"]⟩,
   ⟨0xA85, ["aGUJARATI LETTER AcAAcIcIIcUcUUcVOCALIC RdLbVOWEL CANDRA E"]⟩,
   ⟨0xA8F, ["aGUJARATI LETTER EcAIbVOWEL CANDRA O"]⟩,
   ⟨0xA93, ["aGUJARATI LETTER OcAUcKAcKHAcGAcGHAcNGAcCAcCHAcJAcJHAcNYAcTTAcTTHAcDDAcDDHAcNNA",
    "cTAcTHAcDAcDHAcNA"]⟩,
   ⟨0xAAA, ["aGUJARATI LETTER PAcPHAcBAcBHAcMAcYAcRA"]⟩, ⟨0xAB2, ["aGUJARATI LETTER LAcLLA"]⟩,
   ⟨0xAB5, ["aGUJARATI LETTER VAcSHAcSSAcSAcHA"]⟩,
   ⟨0xABC, ["aGUJARATI SIGN NUKTAcAVAGRAHAbVOWEL SIGN AAdIdIIdUdUUdVOCALIC ReRRdCANDRA E"]⟩,
   ⟨0xAC7, ["aGUJARATI VOWEL SIGN EdAIdCANDRA O"]⟩,
   ⟨0xACB, ["aGUJARATI VOWEL SIGN OdAUbSIGN VIRAMA"]⟩, ⟨0xAD0, ["aGUJARATI OM"]⟩,
   ⟨0xAE0, ["aGUJARATI LETTER VOCALIC RRdLLbVOWEL SIGN VOCALIC LeLL"]⟩,
   ⟨0xAE6, ["aGUJARATI DIGIT ZEROcONEcTWOcTHREEcFOURcFIVEcSIXcSEVENcEIGHTcNINEbABBREVIATION ",
    "SIGNbRUPEE SIGN"]⟩,
   ⟨0xAF9, ["aGUJARATI LETTER ZHAbSIGN SUKUNcSHADDAcMADDAHcTHREE-DOT NUKTA ABOVEcCIRCLE NUKTA ",
    "ABOVEcTWO-CIRCLE NUKTA ABOVE"]⟩,
   ⟨0xB01, ["aORIYA SIGN CANDRABINDUcANUSVARAcVISARGA"]⟩,
   ⟨0xB05, ["aORIYA LETTER AcAAcIcIIcUcUUcVOCALIC RdL"]⟩, ⟨0xB0F, ["aORIYA LETTER EcAI"]⟩,
   ⟨0xB13, ["aORIYA LETTER OcAUcKAcKHAcGAcGHAcNGAcCAcCHAcJAcJHAcNYAcTTAcTTHAcDDAcDDHAcNNAcTA",
    "cTHAcDAcDHAcNA"]⟩,
   ⟨0xB2A, ["aORIYA LETTER PAcPHAcBAcBHAcMAcYAcRA"]⟩, ⟨0xB32, ["aORIYA LETTER LAcLLA"]⟩,
   ⟨0xB35, ["aORIYA LETTER VAcSHAcSSAcSAcHA"]⟩,
   ⟨0xB3C, ["aORIYA SIGN NUKTAcAVAGRAHAbVOWEL SIGN AAdIdIIdUdUUdVOCALIC ReRR"]⟩,
   ⟨0xB47, ["aORIYA VOWEL SIGN EdAI"]⟩, ⟨0xB4B, ["aORIYA VOWEL SIGN OdAUbSIGN VIRAMA"]⟩,
   ⟨0xB55, ["aORIYA SIGN OVERLINEbAI LENGTH MARKbAU LENGTH MARK"]⟩,
   ⟨0xB5C, ["aORIYA LETTER RRAcRHA"]⟩,
   ⟨0xB5F, ["aORIYA LETTER YYAcVOCALIC RRdLLbVOWEL SIGN VOCALIC LeLL"]⟩,
   ⟨0xB66, ["aORIYA DIGIT ZEROcONEcTWOcTHREEcFOURcFIVEcSIXcSEVENcEIGHTcNINEbISSHARbLETTER WA",
    "bFRACTION ONE QUARTERdHALFcTHREE QUARTERScONE SIXTEENTHdEIGHTHcTHREE SIXTEENTHS"]⟩,
   ⟨0xB82, ["aTAMIL SIGN ANUSVARAcVISARGA"]⟩, ⟨0xB85, ["aTAMIL LETTER AcAAcIcIIcUcUU"]⟩,
   ⟨0xB8E, ["aTAMIL LETTER EcEEcAI"]⟩, ⟨0xB92, ["aTAMIL LETTER OcOOcAUcKA"]⟩,
   ⟨0xB99, ["aTAMIL LETTER NGAcCA"]⟩, ⟨0xB9C, ["aTAMIL LETTER JA"]⟩,
   ⟨0xB9E, ["aTAMIL LETTER NYAcTTA"]⟩, ⟨0xBA3, ["aTAMIL LETTER NNAcTA"]⟩,
   ⟨0xBA8, ["aTAMIL LETTER NAcNNNAcPA"]⟩,
   ⟨0xBAE, ["aTAMIL LETTER MAcYAcRAcRRAcLAcLLAcLLLAcVAcSHAcSSAcSAcHA"]⟩,
   ⟨0xBBE, ["aTAMIL VOWEL SIGN AAdIdIIdUdUU"]⟩, ⟨0xBC6, ["aTAMIL VOWEL SIGN EdEEdAI"]⟩,
   ⟨0xBCA, ["aTAMIL VOWEL SIGN OdOOdAUbSIGN VIRAMA"]⟩, ⟨0xBD0, ["aTAMIL OM"]⟩,
   ⟨0xBD7, ["aTAMIL AU LENGTH MARK"]⟩,
   ⟨0xBE6, ["aTAMIL DIGIT ZEROcONEcTWOcTHREEcFOURcFIVEcSIXcSEVENcEIGHTcNINEbNUMBER TENcONE ",
    "HUNDREDdTHOUSANDbDAY SIGNbMONTH SIGNbYEAR SIGNbDEBIT SIGNbCREDIT SIGNbAS ABOVE SIGNbRUPEE ",
    "SIGNbNUMBER SIGN"]⟩,
   ⟨0xC00, ["aTELUGU SIGN COMBINING CANDRABINDU ABOVEcCANDRABINDUcANUSVARAcVISARGAcCOMBINING ",
    "ANUSVARA ABOVEbLETTER AcAAcIcIIcUcUUcVOCALIC RdL"]⟩,
   ⟨0xC0E, ["aTELUGU LETTER EcEEcAI"]⟩,
   ⟨0xC12, ["aTELUGU LETTER OcOOcAUcKAcKHAcGAcGHAcNGAcCAcCHAcJAcJHAcNYAcTTAcTTHAcDDAcDDHAcNNA",
    "cTAcTHAcDAcDHAcNA"]⟩,
   ⟨0xC2A, ["aTELUGU LETTER PAcPHAcBAcBHAcMAcYAcRAcRRAcLAcLLAcLLLAcVAcSHAcSSAcSAcHA"]⟩,
   ⟨0xC3C, ["aTELUGU SIGN NUKTAcAVAGRAHAbVOWEL SIGN AAdIdIIdUdUUdVOCALIC ReRR"]⟩,
   ⟨0xC46, ["aTELUGU VOWEL SIGN EdEEdAI"]⟩, ⟨0xC4A, ["aTELUGU VOWEL SIGN OdOOdAUbSIGN VIRAMA"]⟩,
   ⟨0xC55, ["aTELUGU LENGTH MARKbAI LENGTH MARK"]⟩, ⟨0xC58, ["aTELUGU LETTER TSAcDZAcRRRA"]⟩,
   ⟨0xC5D, ["aTELUGU LETTER NAKAARA POLLU"]⟩,
   ⟨0xC60, ["aTELUGU LETTER VOCALIC RRdLLbVOWEL SIGN VOCALIC LeLL"]⟩,
   ⟨0xC66, ["aTELUGU DIGIT ZEROcONEcTWOcTHREEcFOURcFIVEcSIXcSEVENcEIGHTcNINE"]⟩,
   ⟨0xC77, ["aTELUGU SIGN SIDDHAMbFRACTION DIGIT ZERO FOR ODD POWERS OF FOURdONE FOR ODD ",
    "POWERS OF FOURdTWO FOR ODD POWERS OF FOURdTHREE FOR ODD POWERS OF FOURdONE FOR EVEN ",
    "POWERS OF FOURdTWO FOR EVEN POWERS OF FOURdTHREE FOR EVEN POWERS OF FOURbSIGN TUUMU",
    "aKANNADA SIGN SPACING CANDRABINDUcCANDRABINDUcANUSVARAcVISARGAcSIDDHAMbLETTER AcAAcIcIIcU",
    "cUUcVOCALIC RdL"]⟩,
   ⟨0xC8E, ["aKANNADA LETTER EcEEcAI"]⟩,
   ⟨0xC92, ["aKANNADA LETTER OcOOcAUcKAcKHAcGAcGHAcNGAcCAcCHAcJAcJHAcNYAcTTAcTTHAcDDAcDDHAcNNA",
    "cTAcTHAcDAcDHAcNA"]⟩,
   ⟨0xCAA, ["aKANNADA LETTER PAcPHAcBAcBHAcMAcYAcRAcRRAcLAcLLA"]⟩,
   ⟨0xCB5, ["aKANNADA LETTER VAcSHAcSSAcSAcHA"]⟩,
   ⟨0xCBC, ["aKANNADA SIGN NUKTAcAVAGRAHAbVOWEL SIGN AAdIdIIdUdUUdVOCALIC ReRR"]⟩,
   ⟨0xCC6, ["aKANNADA VOWEL SIGN EdEEdAI"]⟩, ⟨0xCCA, ["aKANNADA VOWEL SIGN OdOOdAUbSIGN VIRAMA"]⟩,
   ⟨0xCD5, ["aKANNADA LENGTH MARKbAI LENGTH MARK"]⟩, ⟨0xCDD, ["aKANNADA LETTER NAKAARA POLLUcFA"]⟩,
   ⟨0xCE0, ["aKANNADA LETTER VOCALIC RRdLLbVOWEL SIGN VOCALIC LeLL"]⟩,
   ⟨0xCE6, ["aKANNADA DIGIT ZEROcONEcTWOcTHREEcFOURcFIVEcSIXcSEVENcEIGHTcNINE"]⟩,
   ⟨0xCF1, ["aKANNADA SIGN JIHVAMULIYAcUPADHMANIYA"]⟩,
   ⟨0xD00, ["aMALAYALAM SIGN COMBINING ANUSVARA ABOVEcCANDRABINDUcANUSVARAcVISARGAbLETTER ",
    "VEDIC ANUSVARAcAcAAcIcIIcUcUUcVOCALIC RdL"]⟩,
   ⟨0xD0E, ["aMALAYALAM LETTER EcEEcAI"]⟩,
   ⟨0xD12, ["aMALAYALAM LETTER OcOOcAUcKAcKHAcGAcGHAcNGAcCAcCHAcJAcJHAcNYAcTTAcTTHAcDDAcDDHA",
    "cNNAcTAcTHAcDAcDHAcNAcNNNAcPAcPHAcBAcBHAcMAcYAcRAcRRAcLAcLLAcLLLAcVAcSHAcSSAcSAcHAcTTTA",
    "bSIGN VERTICAL BAR VIRAMAcCIRCULAR VIRAMAcAVAGRAHAbVOWEL SIGN AAdIdIIdUdUUdVOCALIC ReRR"]⟩,
   ⟨0xD46, ["aMALAYALAM VOWEL SIGN EdEEdAI"]⟩,
   ⟨0xD4A, ["aMALAYALAM VOWEL SIGN OdOOdAUbSIGN VIRAMAbLETTER DOT REPHbSIGN PARA"]⟩,
   ⟨0xD54, ["aMALAYALAM LETTER CHILLU MdYdLLLbAU LENGTH MARKbFRACTION ONE ",
    "ONE-HUNDRED-AND-SIXTIETHdFORTIETHcTHREE EIGHTIETHScONE TWENTIETHdTENTHcTHREE TWENTIETHS",
    "cONE FIFTHbLETTER ARCHAIC IIcVOCALIC RRdLLbVOWEL SIGN VOCALIC LeLL"]⟩,
   ⟨0xD66, ["aMALAYALAM DIGIT ZEROcONEcTWOcTHREEcFOURcFIVEcSIXcSEVENcEIGHTcNINEbNUMBER TEN",
    "cONE HUNDREDdTHOUSANDbFRACTION ONE QUARTERdHALFcTHREE QUARTERScONE SIXTEENTHdEIGHTHcTHREE ",
    "SIXTEENTHSbDATE MARKbLETTER CHILLU NNdNdRRdLdLLdK"]⟩,
   ⟨0xD81, ["aSINHALA SIGN CANDRABINDUcANUSVARAYAcVISARGAYA"]⟩,
   ⟨0xD85, ["aSINHALA LETTER AYANNAcAAYANNAcAEYANNAcAEEYANNAcIYANNAcIIYANNAcUYANNAcUUYANNA",
    "cIRUYANNAcIRUUYANNAcILUYANNAcILUUYANNAcEYANNAcEEYANNAcAIYANNAcOYANNAcOOYANNAcAUYANNA"]⟩,
   ⟨0xD9A, ["aSINHALA LETTER ALPAPRAANA KAYANNAcMAHAAPRAANA KAYANNAcALPAPRAANA GAYANNA",
    "cMAHAAPRAANA GAYANNAcKANTAJA NAASIKYAYAcSANYAKA GAYANNAcALPAPRAANA CAYANNAcMAHAAPRAANA ",
    "CAYANNAcALPAPRAANA JAYANNAcMAHAAPRAANA JAYANNAcTAALUJA NAASIKYAYAdSANYOOGA NAAKSIKYAYA",
    "cSANYAKA JAYANNAcALPAPRAANA TTAYANNAcMAHAAPRAANA TTAYANNAcALPAPRAANA DDAYANNAcMAHAAPRAANA ",
    "DDAYANNAcMUURDHAJA NAYANNAcSANYAKA DDAYANNAcALPAPRAANA TAYANNAcMAHAAPRAANA TAYANNA",
    "cALPAPRAANA DAYANNAcMAHAAPRAANA DAYANNAcDANTAJA NAYANNA"]⟩,
   ⟨0xDB3, ["aSINHALA LETTER SANYAKA DAYANNAcALPAPRAANA PAYANNAcMAHAAPRAANA PAYANNA",
    "cALPAPRAANA BAYANNAcMAHAAPRAANA BAYANNAcMAYANNAcAMBA BAYANNAcYAYANNAcRAYANNA"]⟩,
   ⟨0xDBD, ["aSINHALA LETTER DANTAJA LAYANNA"]⟩,
   ⟨0xDC0, ["aSINHALA LETTER VAYANNAcTAALUJA SAYANNAcMUURDHAJA SAYANNAcDANTAJA SAYANNAcHAYANNA",
    "cMUURDHAJA LAYANNAcFAYANNA"]⟩,
   ⟨0xDCA, ["aSINHALA SIGN AL-LAKUNA"]⟩,
   ⟨0xDCF, ["aSINHALA VOWEL SIGN AELA-PILLAdKETTI AEDA-PILLAdDIGA AEDA-PILLAdKETTI IS-PILLA",
    "dDIGA IS-PILLAdKETTI PAA-PILLA"]⟩,
   ⟨0xDD6, ["aSINHALA VOWEL SIGN DIGA PAA-PILLA"]⟩,
   ⟨0xDD8, ["aSINHALA VOWEL SIGN GAETTA-PILLAdKOMBUVAdDIGA KOMBUVAdKOMBU DEKAdKOMBUVA HAA ",
    "AELA-PILLAfDIGA AELA-PILLAfGAYANUKITTAdGAYANUKITTA"]⟩,
   ⟨0xDE6, ["aSINHALA LITH DIGIT ZEROdONEdTWOdTHREEdFOURdFIVEdSIXdSEVENdEIGHTdNINE"]⟩,
   ⟨0xDF2, ["aSINHALA VOWEL SIGN DIGA GAETTA-PILLAeGAYANUKITTAbPUNCTUATION KUNDDALIYA"]⟩,
   ⟨0xE01, ["aTHAI CHARACTER KO KAIcKHO KHAIdKHUATdKHWAIdKHONdRAKHANGcNGO NGUcCHO CHANdCHING",
    "dCHANGcSO SOcCHO CHOEcYO YINGcDO CHADAcTO PATAKcTHO THANdNANGMONTHOdPHUTHAOcNO NENcDO DEK",
    "cTO TAOcTHO THUNGdTHAHANdTHONGcNO NUcBO BAIMAIcPO PLAcPHO PHUNGcFO FAcPHO PHANcFO FANcPHO ",
    "SAMPHAOcMO MAcYO YAKcRO RUAcRUcLO LINGcLUcWO WAENcSO SALAdRUSIdSUAcHO HIPcLO CHULAcO ANG",
    "cHO NOKHUKcPAIYANNOIcSARA AcMAI HAN-AKATcSARA AAdAMdIdIIdUEdUEEdUdUUcPHINTHU"]⟩,
   ⟨0xE3F, ["aTHAI CURRENCY SYMBOL BAHTbCHARACTER SARA EdAEdOdAI MAIMUANeMAIMALAIcLAKKHANGYAO",
    "cMAIYAMOKcMAITAIKHUcMAI EKdTHOdTRIdCHATTAWAcTHANTHAKHATcNIKHAHITcYAMAKKANcFONGMANbDIGIT ",
    "ZEROcONEcTWOcTHREEcFOURcFIVEcSIXcSEVENcEIGHTcNINEbCHARACTER ANGKHANKHUcKHOMUT"]⟩,
   ⟨0xE81, ["aLAO LETTER KOcKHO SUNG"]⟩, ⟨0xE84, ["aLAO LETTER KHO TAM"]⟩,
   ⟨0xE86, ["aLAO LETTER PALI GHAcNGOcCOcPALI CHAcSO TAM"]⟩,
   ⟨0xE8C, ["aLAO LETTER PALI JHAcNYOcPALI NYAdTTAdTTHAdDDAdDDHAdNNAcDOcTOcTHO SUNGdTAMcPALI ",
    "DHAcNOcBOcPOcPHO SUNGcFO TAMcPHO TAMcFO SUNGcPALI BHAcMOcYOcLO LING"]⟩,
   ⟨0xEA5, ["aLAO LETTER LO LOOT"]⟩,
   ⟨0xEA7, ["aLAO LETTER WOcSANSKRIT SHAdSSAcSO SUNGcHO SUNGcPALI LLAcOcHO TAMbELLIPSISbVOWEL ",
    "SIGN AdMAI KANdAAdAMdIdIIdYdYYdUdUUbSIGN PALI VIRAMAbVOWEL SIGN MAI KONbSEMIVOWEL SIGN LO",
    "dNYO"]⟩,
   ⟨0xEC0, ["aLAO VOWEL SIGN EdEIdOdAYdAI"]⟩, ⟨0xEC6, ["aLAO KO LA"]⟩,
   ⟨0xEC8, ["aLAO TONE MAI EKdTHOdTIdCATAWAbCANCELLATION MARKbNIGGAHITA"]⟩,
   ⟨0xED0, ["aLAO DIGIT ZEROcONEcTWOcTHREEcFOURcFIVEcSIXcSEVENcEIGHTcNINE"]⟩,
   ⟨0xEDC, ["aLAO HO NOcMObLETTER KHMU GOdNYO"]⟩,
   ⟨0xF00, ["aTIBETAN SYLLABLE OMbMARK GTER YIG MGO TRUNCATED Af-UM RNAM BCAD MAgGTER TSHEG MA",
    "cINITIAL YIG MGO MDUN MAcCLOSING YIG MGO SGAB MAcCARET YIG MGO PHUR SHAD MAcYIG MGO TSHEG ",
    "SHAD MAcSBRUL SHADcBSKUR YIG MGOcBKA- SHOG YIG MGOcINTERSYLLABIC TSHEGcDELIMITER TSHEG ",
    "BSTARcSHADcNYIS SHADcTSHEG SHADcNYIS TSHEG SHADcRIN CHEN SPUNGS SHADcRGYA GRAM SHADcCARET ",
    "-DZUD RTAGS ME LONG CANcGTER TSHEGbLOGOTYPE SIGN CHAD RTAGSdLHAG RTAGSbASTROLOGICAL SIGN ",
    "SGRA GCAN -CHAR RTAGSd-KHYUD PAdSDONG TSHUGSbSIGN RDEL DKAR GCIGeGNYISeGSUMdNAG GCIGeGNYIS",
    "dDKAR RDEL NAGbDIGIT ZEROcONEcTWOcTHREEcFOURcFIVEcSIXcSEVENcEIGHTcNINEcHALF ONEdTWOdTHREE",
    "dFOURdFIVEdSIXdSEVENdEIGHTdNINEdZERObMARK BSDUS RTAGScNGAS BZUNG NYI ZLAcCARET -DZUD ",
    "RTAGS BZHI MIG CANcNGAS BZUNG SGOR RTAGScCHE MGOcTSA -PHRUcGUG RTAGS GYONeGYAScANG KHANG ",
    "GYONeGYASbSIGN YAR TSHEScMAR TSHESbLETTER KAcKHAcGAcGHAcNGAcCAcCHAcJA"]⟩,
   ⟨0xF49, ["aTIBETAN LETTER NYAcTTAcTTHAcDDAcDDHAcNNAcTAcTHAcDAcDHAcNAcPAcPHAcBAcBHAcMAcTSA",
    "cTSHAcDZAcDZHAcWAcZHAcZAc-AcYAcRAcLAcSHAcSSAcSAcHAcAcKSSAcFIXED-FORM RAcKKAcRRA"]⟩,
   ⟨0xF71, ["aTIBETAN VOWEL SIGN AAdIdIIdUdUUdVOCALIC ReRReLeLLdEdEEdOdOObSIGN RJES SU NGA RO",
    "cRNAM BCADbVOWEL SIGN REVERSED IeIIbSIGN NYI ZLA NAA DAcSNA LDANbMARK HALANTAcPALUTAbSIGN ",
    "LCI RTAGScYANG RTAGScLCE TSA CANcMCHU CANcGRU CAN RGYINGSdMED RGYINGScINVERTED MCHU CAN",
    "bSUBJOINED SIGN LCE TSA CANdMCHU CANdINVERTED MCHU CANcLETTER KAdKHAdGAdGHAdNGAdCAdCHAdJA"]⟩,
   ⟨0xF99, ["aTIBETAN SUBJOINED LETTER NYAdTTAdTTHAdDDAdDDHAdNNAdTAdTHAdDAdDHAdNAdPAdPHAdBA",
    "dBHAdMAdTSAdTSHAdDZAdDZHAdWAdZHAdZAd-AdYAdRAdLAdSHAdSSAdSAdHAdAdKSSAdFIXED-FORM WAeYAeRA"]⟩,
   ⟨0xFBE, ["aTIBETAN KU RU KHAeBZHI MIG CANbCANTILLATION SIGN HEAVY BEATdLIGHT BEATdCANG TE-U",
    "dSBUB -CHALbSYMBOL DRIL BUcRDO RJEcPADMA GDANcRDO RJE RGYA GRAMcPHUR PAcNOR BUeNYIS -KHYIL",
    "eGSUM -KHYILeBZHI -KHYIL"]⟩,
   ⟨0xFCE, ["aTIBETAN SIGN RDEL NAG RDEL DKAReGSUMbMARK BSKA- SHOG GI MGO RGYANcMNYAM YIG GI ",
    "MGO RGYANcNYIS TSHEGcINITIAL BRDA RNYING YIG MGO MDUN MAcCLOSING BRDA RNYING YIG MGO SGAB ",
    "MAaRIGHT-FACING SVASTI SIGNaLEFT-FACING SVASTI SIGNaRIGHT-FACING SVASTI SIGN WITH DOTS",
    "aLEFT-FACING SVASTI SIGN WITH DOTSaTIBETAN MARK LEADING MCHAN RTAGScTRAILING MCHAN RTAGS"]⟩,
   ⟨0x1000, ["aMYANMAR LETTER KAcKHAcGAcGHAcNGAcCAcCHAcJAcJHAcNYAcNNYAcTTAcTTHAcDDAcDDHAcNNA",
    "cTAcTHAcDAcDHAcNAcPAcPHAcBAcBHAcMAcYAcRAcLAcWAcSAcHAcLLAcAcSHAN AcIcIIcUcUUcEcMON EcOcAU",
    "bVOWEL SIGN TALL AAdAAdIdIIdUdUUdEdAIdMON IIeOdE ABOVEbSIGN ANUSVARAcDOT BELOWcVISARGA",
    "cVIRAMAcASATbCONSONANT SIGN MEDIAL YAeRAeWAeHAbLETTER GREAT SAbDIGIT ZEROcONEcTWOcTHREE",
    "cFOURcFIVEcSIXcSEVENcEIGHTcNINEbSIGN LITTLE SECTIONcSECTIONbSYMBOL LOCATIVEcCOMPLETED",
    "cAFOREMENTIONEDcGENITIVEbLETTER SHAcSSAcVOCALIC RdRRdLdLLbVOWEL SIGN VOCALIC ReRReLeLL",
    "bLETTER MON NGAdJHAdBBAdBBEbCONSONANT SIGN MON MEDIAL NAfMAfLAbLETTER SGAW KAREN SHA",
    "bVOWEL SIGN SGAW KAREN EUbTONE MARK SGAW KAREN HATHIfKE PHObLETTER WESTERN PWO KAREN THA",
    "fPWAbVOWEL SIGN WESTERN PWO KAREN EUgUEbSIGN WESTERN PWO KAREN TONE-1fTONE-2fTONE-3fTONE-4",
    "fTONE-5bLETTER EASTERN PWO KAREN NNAfYWAfGHWAbVOWEL SIGN GEBA KAREN IdKAYAH OEeUeEE",
    "bLETTER SHAN KAdKHAdGAdCAdZAdNYAdDAdNAdPHAdFAdBAdTHAdHAbCONSONANT SIGN SHAN MEDIAL WA",
    "bVOWEL SIGN SHAN AAeEfABOVEeFINAL YbSIGN SHAN TONE-2dTONE-3dTONE-5dTONE-6dCOUNCIL TONE-2",
    "eTONE-3eEMPHATIC TONEbLETTER RUMAI PALAUNG FAbSIGN RUMAI PALAUNG TONE-5bSHAN DIGIT ZERO",
    "dONEdTWOdTHREEdFOURdFIVEdSIXdSEVENdEIGHTdNINEbSIGN KHAMTI TONE-1dTONE-3bVOWEL SIGN AITON A",
    "eAIbSYMBOL SHAN ONEdEXCLAMATIONaGEORGIAN CAPITAL LETTER ANdBANdGANdDONdENdVINdZENdTANdIN",
    "dKANdLASdMANdNARdONdPARdZHARdRAEdSANdTARdUNdPHARdKHARdGHANdQARdSHINdCHINdCANdJILdCILdCHAR",
    "dXANdJHANdHAEdHEdHIEdWEdHARdHOE"]⟩,
   ⟨0x10C7, ["aGEORGIAN CAPITAL LETTER YN"]⟩, ⟨0x10CD, ["aGEORGIAN CAPITAL LETTER AEN"]⟩,
   ⟨0x10D0, ["aGEORGIAN LETTER ANcBANcGANcDONcENcVINcZENcTANcINcKANcLAScMANcNARcONcPARcZHAR",
    "cRAEcSANcTARcUNcPHARcKHARcGHANcQARcSHINcCHINcCANcJILcCILcCHARcXANcJHANcHAEcHEcHIEcWEcHAR",
    "cHOEcFIcYNcELIFIcTURNED GANcAINbPARAGRAPH SEPARATORaMODIFIER LETTER GEORGIAN NARaGEORGIAN ",
    "LETTER AENcHARD SIGNcLABIAL SIGNaHANGUL CHOSEONG KIYEOKcSSANGKIYEOKcNIEUNcTIKEUT",
    "cSSANGTIKEUTcRIEULcMIEUMcPIEUPcSSANGPIEUPcSIOScSSANGSIOScIEUNGcCIEUCcSSANGCIEUCcCHIEUCH",
    "cKHIEUKHcTHIEUTHcPHIEUPHcHIEUHcNIEUN-KIYEOKcSSANGNIEUNcNIEUN-TIKEUTcNIEUN-PIEUP",
    "cTIKEUT-KIYEOKcRIEUL-NIEUNcSSANGRIEULcRIEUL-HIEUHcKAPYEOUNRIEULcMIEUM-PIEUPcKAPYEOUNMIEUM",
    "cPIEUP-KIYEOKcPIEUP-NIEUNcPIEUP-TIKEUTcPIEUP-SIOScPIEUP-SIOS-KIYEOKcPIEUP-SIOS-TIKEUT",
    "cPIEUP-SIOS-PIEUPcPIEUP-SSANGSIOScPIEUP-SIOS-CIEUCcPIEUP-CIEUCcPIEUP-CHIEUCHcPIEUP-THIEUTH",
    "cPIEUP-PHIEUPHcKAPYEOUNPIEUPcKAPYEOUNSSANGPIEUPcSIOS-KIYEOKcSIOS-NIEUNcSIOS-TIKEUT",
    "cSIOS-RIEULcSIOS-MIEUMcSIOS-PIEUPcSIOS-PIEUP-KIYEOKcSIOS-SSANGSIOScSIOS-IEUNGcSIOS-CIEUC",
    "cSIOS-CHIEUCHcSIOS-KHIEUKHcSIOS-THIEUTHcSIOS-PHIEUPHcSIOS-HIEUHcCHITUEUMSIOS",
    "cCHITUEUMSSANGSIOScCEONGCHIEUMSIOScCEONGCHIEUMSSANGSIOScPANSIOScIEUNG-KIYEOKcIEUNG-TIKEUT",
    "cIEUNG-MIEUMcIEUNG-PIEUPcIEUNG-SIOScIEUNG-PANSIOScSSANGIEUNGcIEUNG-CIEUCcIEUNG-CHIEUCH",
    "cIEUNG-THIEUTHcIEUNG-PHIEUPHcYESIEUNGcCIEUC-IEUNGcCHITUEUMCIEUCcCHITUEUMSSANGCIEUC",
    "cCEONGCHIEUMCIEUCcCEONGCHIEUMSSANGCIEUCcCHIEUCH-KHIEUKHcCHIEUCH-HIEUHcCHITUEUMCHIEUCH",
    "cCEONGCHIEUMCHIEUCHcPHIEUPH-PIEUPcKAPYEOUNPHIEUPHcSSANGHIEUHcYEORINHIEUHcKIYEOK-TIKEUT",
    "cNIEUN-SIOScNIEUN-CIEUCcNIEUN-HIEUHcTIKEUT-RIEULcFILLERbJUNGSEONG FILLERcAcAEcYAcYAEcEOcE",
    "cYEOcYEcOcWAcWAEcOEcYOcUcWEOcWEcWIcYUcEUcYIcIcA-OcA-UcYA-OcYA-YOcEO-OcEO-UcEO-EUcYEO-O",
    "cYEO-UcO-EOcO-EcO-YEcO-OcO-UcYO-YAcYO-YAEcYO-YEOcYO-OcYO-IcU-AcU-AEcU-EO-EUcU-YEcU-UcYU-A",
    "cYU-EOcYU-EcYU-YEOcYU-YEcYU-UcYU-IcEU-UcEU-EUcYI-UcI-AcI-YAcI-OcI-UcI-EUcI-ARAEAcARAEA",
    "cARAEA-EOcARAEA-UcARAEA-IcSSANGARAEAcA-EUcYA-UcYEO-YAcO-YAcO-YAEbJONGSEONG KIYEOK",
    "cSSANGKIYEOKcKIYEOK-SIOScNIEUNcNIEUN-CIEUCcNIEUN-HIEUHcTIKEUTcRIEULcRIEUL-KIYEOK",
    "cRIEUL-MIEUMcRIEUL-PIEUPcRIEUL-SIOScRIEUL-THIEUTHcRIEUL-PHIEUPHcRIEUL-HIEUHcMIEUMcPIEUP",
    "cPIEUP-SIOScSIOScSSANGSIOScIEUNGcCIEUCcCHIEUCHcKHIEUKHcTHIEUTHcPHIEUPHcHIEUHcKIYEOK-RIEUL",
    "cKIYEOK-SIOS-KIYEOKcNIEUN-KIYEOKcNIEUN-TIKEUTcNIEUN-SIOScNIEUN-PANSIOScNIEUN-THIEUTH",
    "cTIKEUT-KIYEOKcTIKEUT-RIEULcRIEUL-KIYEOK-SIOScRIEUL-NIEUNcRIEUL-TIKEUTcRIEUL-TIKEUT-HIEUH",
    "cSSANGRIEULcRIEUL-MIEUM-KIYEOKcRIEUL-MIEUM-SIOScRIEUL-PIEUP-SIOScRIEUL-PIEUP-HIEUH",
    "cRIEUL-KAPYEOUNPIEUPcRIEUL-SSANGSIOScRIEUL-PANSIOScRIEUL-KHIEUKHcRIEUL-YEORINHIEUH",
    "cMIEUM-KIYEOKcMIEUM-RIEULcMIEUM-PIEUPcMIEUM-SIOScMIEUM-SSANGSIOScMIEUM-PANSIOS",
    "cMIEUM-CHIEUCHcMIEUM-HIEUHcKAPYEOUNMIEUMcPIEUP-RIEULcPIEUP-PHIEUPHcPIEUP-HIEUH",
    "cKAPYEOUNPIEUPcSIOS-KIYEOKcSIOS-TIKEUTcSIOS-RIEULcSIOS-PIEUPcPANSIOScIEUNG-KIYEOK",
    "cIEUNG-SSANGKIYEOKcSSANGIEUNGcIEUNG-KHIEUKHcYESIEUNGcYESIEUNG-SIOScYESIEUNG-PANSIOS",
    "cPHIEUPH-PIEUPcKAPYEOUNPHIEUPHcHIEUH-NIEUNcHIEUH-RIEULcHIEUH-MIEUMcHIEUH-PIEUPcYEORINHIEUH",
    "cKIYEOK-NIEUNcKIYEOK-PIEUPcKIYEOK-CHIEUCHcKIYEOK-KHIEUKHcKIYEOK-HIEUHcSSANGNIEUNaETHIOPIC ",
    "SYLLABLE HAcHUcHIcHAAcHEEcHEcHOcHOAcLAcLUcLIcLAAcLEEcLEcLOcLWAcHHAcHHUcHHIcHHAAcHHEEcHHE",
    "cHHOcHHWAcMAcMUcMIcMAAcMEEcMEcMOcMWAcSZAcSZUcSZIcSZAAcSZEEcSZEcSZOcSZWAcRAcRUcRIcRAAcREE",
    "cREcROcRWAcSAcSUcSIcSAAcSEEcSEcSOcSWAcSHAcSHUcSHIcSHAAcSHEEcSHEcSHOcSHWAcQAcQUcQIcQAAcQEE",
    "cQEcQOcQOAcQWA"]⟩,
   ⟨0x124A, ["aETHIOPIC SYLLABLE QWIcQWAAcQWEEcQWE"]⟩,
   ⟨0x1250, ["aETHIOPIC SYLLABLE QHAcQHUcQHIcQHAAcQHEEcQHEcQHO"]⟩,
   ⟨0x1258, ["aETHIOPIC SYLLABLE QHWA"]⟩, ⟨0x125A, ["aETHIOPIC SYLLABLE QHWIcQHWAAcQHWEEcQHWE"]⟩,
   ⟨0x1260, ["aETHIOPIC SYLLABLE BAcBUcBIcBAAcBEEcBEcBOcBWAcVAcVUcVIcVAAcVEEcVEcVOcVWAcTAcTU",
    "cTIcTAAcTEEcTEcTOcTWAcCAcCUcCIcCAAcCEEcCEcCOcCWAcXAcXUcXIcXAAcXEEcXEcXOcXOAcXWA"]⟩,
   ⟨0x128A, ["aETHIOPIC SYLLABLE XWIcXWAAcXWEEcXWE"]⟩,
   ⟨0x1290, ["aETHIOPIC SYLLABLE NAcNUcNIcNAAcNEEcNEcNOcNWAcNYAcNYUcNYIcNYAAcNYEEcNYEcNYOcNYWA",
    "cGLOTTAL AdUdIdAAdEEdEdOdWAcKAcKUcKIcKAAcKEEcKEcKOcKOAcKWA"]⟩,
   ⟨0x12B2, ["aETHIOPIC SYLLABLE KWIcKWAAcKWEEcKWE"]⟩,
   ⟨0x12B8, ["aETHIOPIC SYLLABLE KXAcKXUcKXIcKXAAcKXEEcKXEcKXO"]⟩,
   ⟨0x12C0, ["aETHIOPIC SYLLABLE KXWA"]⟩, ⟨0x12C2, ["aETHIOPIC SYLLABLE KXWIcKXWAAcKXWEEcKXWE"]⟩,
   ⟨0x12C8, ["aETHIOPIC SYLLABLE WAcWUcWIcWAAcWEEcWEcWOcWOAcPHARYNGEAL AdUdIdAAdEEdEdO"]⟩,
   ⟨0x12D8, ["aETHIOPIC SYLLABLE ZAcZUcZIcZAAcZEEcZEcZOcZWAcZHAcZHUcZHIcZHAAcZHEEcZHEcZHOcZHWA",
    "cYAcYUcYIcYAAcYEEcYEcYOcYOAcDAcDUcDIcDAAcDEEcDEcDOcDWAcDDAcDDUcDDIcDDAAcDDEEcDDEcDDOcDDWA",
    "cJAcJUcJIcJAAcJEEcJEcJOcJWAcGAcGUcGIcGAAcGEEcGEcGOcGOAcGWA"]⟩,
   ⟨0x1312, ["aETHIOPIC SYLLABLE GWIcGWAAcGWEEcGWE"]⟩,
   ⟨0x1318, ["aETHIOPIC SYLLABLE GGAcGGUcGGIcGGAAcGGEEcGGEcGGOcGGWAAcTHAcTHUcTHIcTHAAcTHEEcTHE",
    "cTHOcTHWAcCHAcCHUcCHIcCHAAcCHEEcCHEcCHOcCHWAcPHAcPHUcPHIcPHAAcPHEEcPHEcPHOcPHWAcTSAcTSU",
    "cTSIcTSAAcTSEEcTSEcTSOcTSWAcTZAcTZUcTZIcTZAAcTZEEcTZEcTZOcTZOAcFAcFUcFIcFAAcFEEcFEcFOcFWA",
    "cPAcPUcPIcPAAcPEEcPEcPOcPWAcRYAcMYAcFYA"]⟩,
   ⟨0x135D, ["aETHIOPIC COMBINING GEMINATION AND VOWEL LENGTH MARKcVOWEL LENGTH MARK",
    "cGEMINATION MARKbSECTION MARKbWORDSPACEbFULL STOPbCOMMAbSEMICOLONbCOLONbPREFACE COLON",
    "bQUESTION MARKbPARAGRAPH SEPARATORbDIGIT ONEcTWOcTHREEcFOURcFIVEcSIXcSEVENcEIGHTcNINE",
    "bNUMBER TENcTWENTYcTHIRTYcFORTYcFIFTYcSIXTYcSEVENTYcEIGHTYcNINETYcHUNDREDcTEN THOUSAND"]⟩,
   ⟨0x1380, ["aETHIOPIC SYLLABLE SEBATBEIT MWAcMWIcMWEEcMWEcSEBATBEIT BWAcBWIcBWEEcBWE",
    "cSEBATBEIT FWAcFWIcFWEEcFWEcSEBATBEIT PWAcPWIcPWEEcPWEbTONAL MARK YIZETdDERETdRIKRIK",
    "dSHORT RIKRIKdDIFATdKENATdCHIRETdHIDETdDERET-HIDETdKURT"]⟩,
   ⟨0x13A0, ["aCHEROKEE LETTER AcEcIcOcUcVcGAcKAcGEcGIcGOcGUcGVcHAcHEcHIcHOcHUcHVcLAcLEcLIcLO",
    "cLUcLVcMAcMEcMIcMOcMUcNAcHNAcNAHcNEcNIcNOcNUcNVcQUAcQUEcQUIcQUOcQUUcQUVcSAcScSEcSIcSOcSU",
    "cSVcDAcTAcDEcTEcDIcTIcDOcDUcDVcDLAcTLAcTLEcTLIcTLOcTLUcTLVcTSAcTSEcTSIcTSOcTSUcTSVcWAcWE",
    "cWIcWOcWUcWVcYAcYEcYIcYOcYUcYVcMV"]⟩,
   ⟨0x13F8, ["aCHEROKEE SMALL LETTER YEdYIdYOdYUdYVdMV"]⟩]

end LitNote.Text.Name
